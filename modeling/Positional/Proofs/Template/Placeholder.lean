import Positional.Proofs.Template.Rejection

/-!
# Placeholders that are listed

Joining literal text adds no placeholder, so every placeholder that a scan lists is a reference of
the text: it stands inside the text, and its index is no greater than the ceiling.
-/

namespace Positional.Template

theorem placeholder_mem_joinLiteral {index : Int} {position : Option Int} {text : String}
    {segments : List Segment} :
    .placeholder index position ∈ Segment.joinLiteral text segments ↔
      .placeholder index position ∈ segments := by
  rcases Segment.joinLiteral_cases text segments with
    ⟨-, hjoin⟩ | ⟨next, rest, rfl, hjoin⟩ | ⟨-, hjoin⟩ <;> rw [hjoin]
  · simp
  · simp

theorem placeholder_mem_prepend {index : Int} {position : Option Int} {text : String}
    {listing : Listing} :
    .placeholder index position ∈ (listing.prepend text).segments ↔
      .placeholder index position ∈ listing.segments := by
  obtain ⟨segments, fault⟩ := listing
  cases fault with
  | none => rw [Listing.prepend_done, placeholder_mem_joinLiteral]
  | some fault =>
      cases segments with
      | nil => rw [Listing.prepend_fault]
      | cons first rest => rw [Listing.prepend_cons, placeholder_mem_joinLiteral]

/-- A placeholder among the segments of tokens is one of their references, where it is spelled. -/
theorem placeholder_mem_emitAll {offset : Nat} {fault : Option Fault} {tokens : List Token}
    {index : Int} {position : Option Int}
    (h : .placeholder index position ∈ (Token.emitAll offset ⟨[], fault⟩ tokens).segments) :
    ∃ (digits : List Char) (start : Nat), Token.reference digits ∈ tokens ∧
      index = Numeral.value digits ∧ position = some (start : Int) ∧ offset ≤ start ∧
      start < offset + (Token.spellings tokens).length := by
  induction tokens generalizing offset with
  | nil => simp [Token.emitAll] at h
  | cons token tokens ih =>
      have hlength := List.length_pos_iff.2 (Token.spelling_ne_nil token)
      have hrest : .placeholder index position ∈
          (Token.emitAll (offset + token.spelling.length) ⟨[], fault⟩ tokens).segments →
          ∃ (digits : List Char) (start : Nat), Token.reference digits ∈ token :: tokens ∧
            index = Numeral.value digits ∧ position = some (start : Int) ∧ offset ≤ start ∧
            start < offset + (Token.spellings (token :: tokens)).length := by
        intro hmem
        obtain ⟨digits, start, htoken, hindex, hposition, hle, hlt⟩ := ih hmem
        refine ⟨digits, start, List.mem_cons_of_mem token htoken, hindex, hposition, by omega, ?_⟩
        rw [Token.spellings_cons, List.length_append]
        omega
      cases token with
      | literal c => exact hrest (placeholder_mem_prepend.1 h)
      | reference digits =>
          rcases List.mem_cons.1 h with hfirst | hmem
          · obtain ⟨rfl, rfl⟩ := Segment.placeholder.inj hfirst
            refine ⟨digits, offset, List.mem_cons_self, rfl, rfl, by omega, ?_⟩
            rw [Token.spellings_cons, List.length_append]
            omega
          · exact hrest hmem

/-- A placeholder that a scan lists has an index up to the ceiling, and stands in the text. -/
theorem placeholder_mem_drain {ceiling : Int} {text : List Char} {index : Int}
    {position : Option Int}
    (h : .placeholder index position ∈ (drain ceiling ⟨0, text⟩).segments) :
    ∃ start : Nat, 0 ≤ index ∧ index ≤ ceiling ∧ position = some (start : Int) ∧
      start < text.length := by
  obtain ⟨tokens, rest, hlegal, rfl, hrest⟩ := exists_tokens ceiling 0 text
  have hfollowing : ∃ fault, drain ceiling ⟨0 + (Token.spellings tokens).length, rest⟩ =
      ⟨[], fault⟩ := by
    rcases hrest with rfl | ⟨fault, hrejected⟩
    · exact ⟨none, drain_nil _ _⟩
    · exact ⟨some fault, drain_rejected hrejected⟩
  obtain ⟨fault, hfault⟩ := hfollowing
  rw [drain_tokens hlegal, hfault] at h
  obtain ⟨digits, start, htoken, rfl, hposition, -, hlt⟩ := placeholder_mem_emitAll h
  refine ⟨start, by omega, (hlegal _ htoken).2.2.2, hposition, ?_⟩
  rw [List.length_append]
  omega

end Positional.Template
