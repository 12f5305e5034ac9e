import Positional.Settings
import Positional.Proofs.Numeral
import Mathlib.Data.List.Induction

/-!
# Bounds for settings

A setting that is read has no more digits than can be read, so it can be written too.
-/

namespace Positional

attribute [local instance (high)] instPowNat

/-! ## Lenient numerals -/

namespace Numeral

theorem lt_ten_of_mem_lenientDigits? {numeral : List Char} {values : List Nat}
    (h : lenientDigits? numeral = some values) : ∀ value ∈ values, value < 10 := by
  fun_induction lenientDigits? numeral generalizing values with
  | case1 => simp at h
  | case2 c =>
      obtain ⟨value, hvalue, rfl⟩ := Option.map_eq_some_iff.1 h
      simpa using Text.digitValue?_lt_ten hvalue
  | case3 c rest ih =>
      obtain ⟨value, hvalue, others, hothers, rfl⟩ := by
        simpa [Option.bind_eq_some_iff] using h
      simpa using ⟨Text.digitValue?_lt_ten hvalue, ih hothers⟩
  | case4 c rest hne hsep ih =>
      obtain ⟨value, hvalue, others, hothers, rfl⟩ := by
        simpa [Option.bind_eq_some_iff] using h
      simpa using ⟨Text.digitValue?_lt_ten hvalue, ih hothers⟩

theorem ofDigitValues_append_singleton (values : List Nat) (value : Nat) :
    ofDigitValues (values ++ [value]) = 10 * ofDigitValues values + value := by
  simp [ofDigitValues]

theorem ofDigitValues_lt {values : List Nat} (h : ∀ value ∈ values, value < 10) :
    ofDigitValues values < 10 ^ values.length := by
  induction values using List.reverseRecOn with
  | nil => decide
  | append_singleton values value ih =>
      have hvalues := ih fun other hmem => h other (List.mem_append_left _ hmem)
      have hvalue := h value (by simp)
      rw [ofDigitValues_append_singleton, List.length_append, List.length_singleton,
        Nat.pow_succ]
      omega

theorem natAbs_signed (negative : Bool) (magnitude : Nat) :
    (signed negative magnitude).natAbs = magnitude := by
  cases negative <;> simp [signed]

theorem isWritable_of_lenient? {numeral : List Char} {i : Int}
    (h : lenient? numeral = some i) : isWritable i = true := by
  unfold lenient? at h
  obtain ⟨values, hvalues, hread⟩ := Option.bind_eq_some_iff.1 h
  split at hread
  · rename_i hlength
    obtain rfl := Option.some.inj hread
    have hlt := ofDigitValues_lt (lt_ten_of_mem_lenientDigits? hvalues)
    have hpow : 10 ^ values.length ≤ 10 ^ digitLimit :=
      Nat.pow_le_pow_right (by decide) hlength
    rw [isWritable, natAbs_signed, decide_eq_true_eq]
    exact Nat.lt_of_lt_of_le hlt hpow
  · simp at hread

theorem isWritable_of_lt {i : Int} (digits : Nat) (h : i.natAbs < 10 ^ digits)
    (hdigits : digits ≤ digitLimit) : isWritable i = true := by
  rw [isWritable, decide_eq_true_eq]
  exact Nat.lt_of_lt_of_le h (Nat.pow_le_pow_right (by decide) hdigits)

/-- The least number that has a digit too many. -/
theorem not_isWritable_pow : isWritable (10 ^ digitLimit : Nat) = false := by
  rw [isWritable, Int.natAbs_natCast, decide_eq_false_iff_not]
  exact Nat.lt_irrefl _

end Numeral

/-! ## The largest index -/

namespace Settings

theorem isWritable_integer (name : String) (value : Option String) {default : Int}
    (minimum : Int) (hdefault : Numeral.isWritable default = true) :
    Numeral.isWritable (integer name value default minimum).result = true := by
  unfold integer
  simp only
  split
  · exact hdefault
  · split
    · rename_i read hread
      unfold readInteger at hread
      split at hread
      · simp at hread
      · rename_i i hi
        split at hread
        · simp at hread
        · obtain rfl := Except.ok.inj hread
          exact Numeral.isWritable_of_lenient? hi
    · exact hdefault

theorem isWritable_maxIndex (env : Environment) :
    Numeral.isWritable (maxIndex env).result = true :=
  isWritable_integer _ _ _ (Numeral.isWritable_of_lt 5 (by decide) (by decide))

theorem maxIndex_nonneg (env : Environment) : 0 ≤ (maxIndex env).result :=
  integer_ge (by decide)

end Settings

end Positional
