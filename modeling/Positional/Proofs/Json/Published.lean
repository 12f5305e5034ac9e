import Positional.Json.Published

/-!
# Texts that can be sent

A text has bytes exactly if no lone half is in it.  The printer escapes no half and brings none
about, so what it makes of a text has bytes exactly if the text has.
-/

namespace Positional

namespace LooseText

def IsWhole (text : LooseText) : Prop :=
  ∀ code ∈ text.codes, code.isHalf = false

variable {s t text : LooseText}

@[simp] theorem isWhole_ofString (s : String) : (ofString s).IsWhole := by
  intro code hmem
  obtain ⟨c, -, rfl⟩ := List.mem_map.1 hmem
  rfl

@[simp] theorem isWhole_append : (s ++ t).IsWhole ↔ s.IsWhole ∧ t.IsWhole :=
  List.forall_mem_append

theorem exists_ofString_of_isWhole (h : text.IsWhole) : ∃ s, text = ofString s := by
  obtain ⟨codes⟩ := text
  suffices hchars : ∃ chars : List Char, codes = chars.map .char by
    obtain ⟨chars, rfl⟩ := hchars
    exact ⟨String.ofList chars, (ofString_ofList chars).symm⟩
  induction codes with
  | nil => exact ⟨[], rfl⟩
  | cons code rest ih =>
      rw [IsWhole, List.forall_mem_cons] at h
      cases code with
      | half _ => cases h.1
      | char c =>
          obtain ⟨chars, rfl⟩ := ih h.2
          exact ⟨c :: chars, rfl⟩

theorem exists_encode_iff : (∃ s, text.encode = .ok s) ↔ text.IsWhole := by
  constructor
  · rintro ⟨s, hs⟩
    rw [encode_eq_ok_iff.1 hs]
    exact isWhole_ofString s
  · intro h
    obtain ⟨s, rfl⟩ := exists_ofString_of_isWhole h
    exact ⟨s, encode_ofString s⟩

end LooseText

namespace Json

namespace Printer

open LooseText (IsWhole)

@[simp] theorem isWhole_quote {s : LooseText} : (quote s).IsWhole ↔ s.IsWhole := by
  have hcode : ∀ code : CodePoint,
      (∀ shown ∈ Printer.code code, shown.isHalf = false) ↔ code.isHalf = false := by
    intro code
    cases code with
    | char c => simp [Printer.code]
    | half _ => simp [Printer.code]
  rw [IsWhole, quote, List.forall_mem_append, List.forall_mem_cons, List.forall_mem_flatMap]
  simp [hcode, IsWhole]

@[simp] theorem isWhole_enclose {opening closing : Char} {texts : List LooseText} :
    (enclose opening closing texts).IsWhole ↔ ∀ text ∈ texts, text.IsWhole := by
  have hjoined : (∀ code ∈ List.intercalate [.char ','] (texts.map LooseText.codes),
      code.isHalf = false) ↔ ∀ text ∈ texts, text.IsWhole := by
    induction texts with
    | nil => simp
    | cons text rest ih =>
        cases rest with
        | nil => simp [IsWhole]
        | cons next more =>
            rw [List.map_cons, List.map_cons, List.intercalate_cons_cons, ← List.map_cons,
              List.forall_mem_append, List.forall_mem_append, ih, List.forall_mem_cons]
            simp [IsWhole]
  rw [IsWhole, enclose, List.forall_mem_append, List.forall_mem_cons, hjoined]
  simp

end Printer

end Json

end Positional
