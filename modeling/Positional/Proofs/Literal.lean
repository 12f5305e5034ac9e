import Positional.Literal
import Positional.Value.Text
import Positional.Proofs.Settings

/-!
# Typed arguments have texts

An integer is read from a text only if it has few enough digits, so a value that was read from a
text can be shown.
-/

namespace Positional

theorem Double.Parts.isDigit_of_mem_whole {core : List Char} {parts : Double.Parts}
    (h : Double.Parts.read? core = some parts) : ∀ c ∈ parts.whole, Numeral.isDigit c = true := by
  unfold Double.Parts.read? at h
  obtain ⟨negative, unsigned⟩ := Numeral.splitSign core
  dsimp only at h
  obtain ⟨fraction, rest⟩ := Double.Parts.readFraction (unsigned.dropWhile Numeral.isDigit)
  obtain ⟨exponent, -, hread⟩ := Option.bind_eq_some_iff.1 h
  split at hread
  · cases hread
  · obtain rfl := Option.some.inj hread
    exact List.all_eq_true.1 List.all_takeWhile

/-! ## Texts of plain values -/

namespace Value

@[simp] theorem shown_none : none.shown = .ok "None" := by
  simp [shown, quoted, Except.map]

@[simp] theorem shown_bool (b : Bool) :
    (bool b).shown = .ok (.ofString (if b then "True" else "False")) := by
  simp [shown, quoted, Except.map]

@[simp] theorem shown_int (i : Int) :
    (int i).shown = (Numeral.write i).map LooseText.ofString := by
  simp [shown, quoted]

@[simp] theorem shown_float (number : Double) : (float number).shown = .ok number.text := by
  simp [shown, quoted, Except.map]

@[simp] theorem shown_text (s : LooseText) : (text s).shown = .ok s := rfl

end Value

/-! ## Reading -/

namespace Literal

theorem exists_shown_number {core : List Char} {parts : Double.Parts}
    (h : Double.Parts.read? core = some parts) :
    ∃ shown, (numberValue core parts).shown = .ok shown := by
  unfold numberValue
  split
  · split
    · rename_i hlength
      have hlt := Numeral.value_lt_pow (Double.Parts.isDigit_of_mem_whole h)
      have hwritable : Numeral.isWritable
          (Numeral.signed parts.negative (Numeral.value parts.whole)) = true :=
        Numeral.isWritable_of_lt _ (by rwa [Numeral.natAbs_signed]) hlength
      exact ⟨_, by rw [Value.shown_int, Numeral.write, if_pos hwritable, Except.map]⟩
    · exact ⟨_, Value.shown_text _⟩
  · exact ⟨_, Value.shown_float _⟩

theorem exists_shown_plainValue? {core : List Char} {value : Value}
    (h : plainValue? core = some value) : ∃ shown, value.shown = .ok shown := by
  unfold plainValue? at h
  split at h
  · obtain rfl := Option.some.inj h
    exact ⟨_, Value.shown_bool true⟩
  · split at h
    · obtain rfl := Option.some.inj h
      exact ⟨_, Value.shown_bool false⟩
    · split at h
      · obtain rfl := Option.some.inj h
        exact ⟨_, Value.shown_none⟩
      · obtain ⟨parts, hparts, rfl⟩ := Option.map_eq_some_iff.1 h
        exact exists_shown_number hparts

theorem exists_shown_value? {core : List CodePoint} {value : Value}
    (h : value? core = some value) : ∃ shown, value.shown = .ok shown := by
  unfold value? at h
  split at h
  · split at h
    · obtain rfl := Option.some.inj h
      exact ⟨_, Value.shown_text _⟩
    · cases h
  · obtain ⟨text, -, hvalue⟩ := Option.bind_eq_some_iff.1 h
    exact exists_shown_plainValue? hvalue

theorem exists_shown_read (text : LooseText) : ∃ shown, (read text).shown = .ok shown := by
  unfold read
  cases hvalue : value? (Text.trim isPadding text.codes) with
  | none => exact ⟨text, rfl⟩
  | some value => exact exists_shown_value? hvalue

end Literal

end Positional
