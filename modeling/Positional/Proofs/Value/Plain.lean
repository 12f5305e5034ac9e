import Positional.Diagnostic
import Positional.Proofs.Literal

/-!
# Values that have a text

A value has a text, by itself and inside a container, if no value of a caller's own type is in it
and no integer that is too long to be written.
-/

namespace Positional

namespace Value

/-- Texts, numbers that can be written, truth values, nothing, and lists and dictionaries of such
values, where the keys are texts. -/
inductive IsPlain : Value → Prop
  | none : IsPlain .none
  | bool (b : Bool) : IsPlain (.bool b)
  | int {i : Int} (hwritable : Numeral.isWritable i = true) : IsPlain (.int i)
  | float (number : Double) : IsPlain (.float number)
  | text (s : LooseText) : IsPlain (.text s)
  | list {items : List Value} (hitems : ∀ item ∈ items, IsPlain item) : IsPlain (.list items)
  | dict {entries : List (Value × Value)} (hkeys : ∀ entry ∈ entries, ∃ s, entry.1 = .text s)
      (hvalues : ∀ entry ∈ entries, IsPlain entry.2) : IsPlain (.dict entries)

theorem exists_quotedItems {items : List Value}
    (h : ∀ item ∈ items, ∃ written, item.quoted = .ok written) :
    ∃ texts, quotedItems items = .ok texts := by
  induction items with
  | nil => exact ⟨[], by rw [quotedItems]⟩
  | cons item rest ih =>
      obtain ⟨written, hwritten⟩ := h item List.mem_cons_self
      obtain ⟨texts, htexts⟩ := ih fun other hmem => h other (List.mem_cons_of_mem _ hmem)
      exact ⟨written :: texts, by rw [quotedItems, hwritten, htexts]; rfl⟩

theorem exists_quotedEntries {entries : List (Value × Value)}
    (hkeys : ∀ entry ∈ entries, ∃ s, entry.1 = .text s)
    (hvalues : ∀ entry ∈ entries, ∃ written, entry.2.quoted = .ok written) :
    ∃ texts, quotedEntries entries = .ok texts := by
  induction entries with
  | nil => exact ⟨[], by rw [quotedEntries]⟩
  | cons entry rest ih =>
      obtain ⟨key, value⟩ := entry
      obtain ⟨name, rfl⟩ : ∃ s, key = .text s := hkeys _ List.mem_cons_self
      obtain ⟨written, hwritten⟩ : ∃ written, value.quoted = .ok written :=
        hvalues _ List.mem_cons_self
      obtain ⟨texts, htexts⟩ := ih (fun other hmem => hkeys other (List.mem_cons_of_mem _ hmem))
        fun other hmem => hvalues other (List.mem_cons_of_mem _ hmem)
      have hname : (text name).quoted = .ok (Text.Quoted.quoteLoose name) := by rw [quoted]
      exact ⟨_ :: texts, by rw [quotedEntries, hname, hwritten, htexts]; rfl⟩

variable {value : Value}

theorem IsPlain.exists_quoted (h : value.IsPlain) : ∃ written, value.quoted = .ok written := by
  induction h with
  | none => exact ⟨_, by rw [quoted]⟩
  | bool b => exact ⟨_, by rw [quoted]⟩
  | int hwritable => exact ⟨_, by rw [quoted, Numeral.write, if_pos hwritable]⟩
  | float number => exact ⟨_, by rw [quoted]⟩
  | text s => exact ⟨_, by rw [quoted]⟩
  | list _ ih =>
      obtain ⟨texts, htexts⟩ := exists_quotedItems ih
      exact ⟨_, by rw [quoted, htexts]; rfl⟩
  | dict hkeys _ ih =>
      obtain ⟨texts, htexts⟩ := exists_quotedEntries hkeys ih
      exact ⟨_, by rw [quoted, htexts]; rfl⟩

theorem IsPlain.exists_shown (h : value.IsPlain) : ∃ written, value.shown = .ok written := by
  obtain ⟨written, hwritten⟩ := h.exists_quoted
  cases h with
  | text s => exact ⟨s, shown_text s⟩
  | _ =>
      refine ⟨written, ?_⟩
      rw [shown]
      · rw [hwritten, Except.map]
      · intro s hs
        cases hs
      · intro s hs
        cases hs

end Value

/-! ## Diagnostics as values -/

theorem Json.toEntries_eq_map (members : List (LooseText × Json)) :
    toEntries members = members.map fun member => (.text member.1, member.2.toValue) := by
  induction members with
  | nil => rfl
  | cons member rest ih => simp [toEntries, ih]

theorem Json.isPlain_object {members : List (LooseText × Json)}
    (h : ∀ member ∈ members, member.2.toValue.IsPlain) : (object members).toValue.IsPlain := by
  rw [toValue, toEntries_eq_map]
  refine .dict (fun entry hmem => ?_) fun entry hmem => ?_
  · obtain ⟨member, -, rfl⟩ := List.mem_map.1 hmem
    exact ⟨member.1, rfl⟩
  · obtain ⟨member, hmember, rfl⟩ := List.mem_map.1 hmem
    exact h member hmember

theorem Diagnostic.isPlain_optionalMember {name : String} {number : Option Int}
    (h : number.all Numeral.isWritable = true) :
    ∀ member ∈ optionalMember name number, member.2.toValue.IsPlain := by
  intro member hmem
  cases number with
  | none => cases hmem
  | some i =>
      rw [Option.all_some] at h
      obtain rfl := List.mem_singleton.1 hmem
      exact .int h

theorem FormatError.isPlain_payload {error : FormatError} (h : error.isWritable = true) :
    error.diagnostic.payload.toValue.IsPlain := by
  simp only [isWritable, Bool.and_eq_true] at h
  obtain ⟨⟨hposition, hindex⟩, havailable⟩ := h
  refine Json.isPlain_object fun member hmem => ?_
  simp only [Diagnostic.members, List.mem_append] at hmem
  rcases hmem with ((hmem | hmem) | hmem) | hmem
  · simp only [List.mem_cons, List.not_mem_nil, or_false] at hmem
    rcases hmem with rfl | rfl <;> exact .text _
  · exact Diagnostic.isPlain_optionalMember hposition member hmem
  · exact Diagnostic.isPlain_optionalMember hindex member hmem
  · exact Diagnostic.isPlain_optionalMember havailable member hmem

end Positional
