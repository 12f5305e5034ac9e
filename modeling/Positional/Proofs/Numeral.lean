import Positional.Fault
import Mathlib.Data.List.TakeWhile

/-!
# Bounds for decimal numerals

A run of digits denotes a number below the power of ten of its length, and at least the power of
ten below the length of its significant part.  So a run that denotes at most a given number has no
more significant digits than that number has: comparing lengths first refuses no number too many.
Written again, the number has the digits of the run without its superfluous leading zeros.
-/

namespace Positional.Numeral

attribute [local instance (high)] instPowNat

/-! ## Digits -/

theorem isDigit_eq (c : Char) : isDigit c = c.isDigit := by
  rw [Bool.eq_iff_iff]
  simp [isDigit, Char.isDigit, Char.le_def]

theorem isDigit_of_mem_digits {n : Nat} {c : Char} (h : c ∈ digits n) : isDigit c = true := by
  rw [digits_eq_toDigits] at h
  rw [isDigit_eq]
  exact Nat.isDigit_of_mem_toDigits (by decide) (by decide) h

theorem digits_ne_nil (n : Nat) : digits n ≠ [] := by
  rw [digits_eq_toDigits]
  exact Nat.toDigits_ne_nil

theorem digits_length_le_limit {n : Nat} (h : n < 10 ^ digitLimit) :
    (digits n).length ≤ digitLimit := by
  rw [digits_eq_toDigits]
  exact (Nat.length_toDigits_le_iff (by decide) (by decide)).2 h

/-- The value of a digit is what its code point exceeds that of zero by. -/
theorem digit_value_lt {c : Char} (h : isDigit c = true) : c.toNat - '0'.toNat < 10 := by
  simp only [isDigit, Bool.and_eq_true, decide_eq_true_eq] at h
  have hle : c.toNat ≤ '9'.toNat := h.2
  have hnine : '9'.toNat = '0'.toNat + 9 := rfl
  omega

theorem digit_value_pos {c : Char} (h : isDigit c = true) (hzero : c ≠ '0') :
    0 < c.toNat - '0'.toNat := by
  simp only [isDigit, Bool.and_eq_true, decide_eq_true_eq] at h
  have hge : '0'.toNat ≤ c.toNat := h.1
  have hne : c.toNat ≠ '0'.toNat := fun he => hzero (Char.toNat_inj.1 he)
  omega

/-! ## Runs of digits -/

theorem takeWhile_run {run rest : List Char} {c : Char} (hrun : ∀ d ∈ run, isDigit d = true)
    (hc : isDigit c = false) : (run ++ c :: rest).takeWhile isDigit = run := by
  rw [List.takeWhile_append_of_pos hrun, List.takeWhile_cons_of_neg (by simp [hc]),
    List.append_nil]

theorem dropWhile_run {run rest : List Char} {c : Char} (hrun : ∀ d ∈ run, isDigit d = true)
    (hc : isDigit c = false) : (run ++ c :: rest).dropWhile isDigit = c :: rest := by
  rw [List.dropWhile_append_of_pos hrun, List.dropWhile_cons_of_neg (by simp [hc])]

/-! ## Values -/

theorem value_cons (c : Char) (rest : List Char) :
    value (c :: rest) = 10 ^ rest.length * (c.toNat - '0'.toNat) + value rest := by
  simp only [value, Nat.ofDigitChars_cons, Nat.mul_zero, Nat.zero_add]
  exact Nat.ofDigitChars_eq_ofDigitChars_zero

theorem value_lt_pow {run : List Char} (h : ∀ c ∈ run, isDigit c = true) :
    value run < 10 ^ run.length := by
  induction run with
  | nil => decide
  | cons c rest ih =>
      have hrest := ih fun d hd => h d (List.mem_cons_of_mem c hd)
      have hc := digit_value_lt (h c List.mem_cons_self)
      have hmul : 10 ^ rest.length * (c.toNat - '0'.toNat) ≤ 10 ^ rest.length * 9 :=
        Nat.mul_le_mul_left _ (by omega)
      rw [value_cons, List.length_cons, Nat.pow_succ]
      omega

theorem pow_le_value {c : Char} {rest : List Char} (h : isDigit c = true) (hzero : c ≠ '0') :
    10 ^ rest.length ≤ value (c :: rest) := by
  have hmul : 10 ^ rest.length * 1 ≤ 10 ^ rest.length * (c.toNat - '0'.toNat) :=
    Nat.mul_le_mul_left _ (digit_value_pos h hzero)
  rw [value_cons]
  omega

/-! ## Significant digits -/

theorem isDigit_of_mem_significant {run : List Char} (h : ∀ c ∈ run, isDigit c = true) :
    ∀ c ∈ significant run, isDigit c = true :=
  fun c hc => h c ((List.dropWhile_sublist _).subset hc)

theorem significant_head_ne {run rest : List Char} {c : Char} (h : significant run = c :: rest) :
    c ≠ '0' := by
  have hhead := List.head?_dropWhile_not (fun c => decide (c = '0')) run
  rw [significant] at h
  rw [h] at hhead
  simpa using hhead

/-- A run that denotes at most `n` has at most as many significant digits as `n`. -/
theorem significant_length_le {run : List Char} {n : Nat} (h : ∀ c ∈ run, isDigit c = true)
    (hle : value run ≤ n) : (significant run).length ≤ (Nat.repr n).length := by
  cases hs : significant run with
  | nil => simp
  | cons c rest =>
      cases rest with
      | nil => exact Nat.length_repr_pos
      | cons d rest =>
          have hdigits := isDigit_of_mem_significant h
          rw [hs] at hdigits
          have hpow : 10 ^ (d :: rest).length ≤ value run := by
            rw [← value_significant, hs]
            exact pow_le_value (hdigits c List.mem_cons_self) (significant_head_ne hs)
          have hnot : ¬ (Nat.repr n).length ≤ (d :: rest).length := by
            rw [Nat.length_repr_le_iff (by simp)]
            omega
          rw [List.length_cons]
          omega

/-- Comparing lengths first refuses only runs that denote more than the bound. -/
theorem lt_value_of_text_length_lt {run : List Char} {bound : Int}
    (h : ∀ c ∈ run, isDigit c = true)
    (hlength : (text bound).length < (significant run).length) : bound < value run := by
  by_cases hneg : bound < 0
  · omega
  · obtain ⟨n, rfl⟩ := Int.eq_ofNat_of_zero_le (by omega : 0 ≤ bound)
    rw [text_ofNat] at hlength
    have hnot : ¬ value run ≤ n := fun hle =>
      Nat.not_le.2 hlength (significant_length_le h hle)
    omega

/-! ## Leading zeros -/

/-- Digits without the zeros at the front that other digits follow. -/
def canonical : List Char → List Char
  | '0' :: c :: rest => canonical (c :: rest)
  | run => run

theorem canonical_length_le (run : List Char) : (canonical run).length ≤ run.length := by
  fun_induction canonical run with
  | case1 c rest ih =>
      simp only [List.length_cons] at ih ⊢
      omega
  | case2 run hrun => exact Nat.le_refl _

theorem value_canonical (run : List Char) : value (canonical run) = value run := by
  fun_induction canonical run with
  | case1 c rest ih => rw [ih, value_cons '0', Nat.sub_self, Nat.mul_zero, Nat.zero_add]
  | case2 run hrun => rfl

theorem canonical_ne_nil {run : List Char} (h : run ≠ []) : canonical run ≠ [] := by
  fun_induction canonical run with
  | case1 c rest ih => exact ih (List.cons_ne_nil c rest)
  | case2 run hrun => exact h

theorem mem_of_mem_canonical {run : List Char} {c : Char} (h : c ∈ canonical run) : c ∈ run := by
  fun_induction canonical run with
  | case1 d rest ih => exact List.mem_cons_of_mem '0' (ih h)
  | case2 run hrun => exact h

theorem canonical_of_isCanonical {run : List Char} (h : isCanonical run = true) :
    canonical run = run := by
  fun_cases canonical run with
  | case1 c rest => simp [isCanonical] at h
  | case2 hrun => rfl

theorem isCanonical_canonical (run : List Char) : isCanonical (canonical run) = true := by
  fun_induction canonical run with
  | case1 c rest ih => exact ih
  | case2 run hrun =>
      cases run with
      | nil => rfl
      | cons c rest =>
          by_cases hzero : c = '0'
          · subst hzero
            cases rest with
            | nil => rfl
            | cons d more => exact (hrun d more rfl).elim
          · simp [isCanonical, hzero]

theorem isCanonical_iff {run : List Char} : isCanonical run = true ↔ canonical run = run := by
  constructor
  · exact canonical_of_isCanonical
  · intro h
    rw [← h]
    exact isCanonical_canonical run

theorem digits_of_digit {c : Char} (h : isDigit c = true) : digits (c.toNat - '0'.toNat) = [c] := by
  have hlt := digit_value_lt h
  have hchar : Nat.digitChar (c.toNat - '0'.toNat) = c := by
    have hge : '0'.toNat ≤ c.toNat := by
      simp only [isDigit, Bool.and_eq_true, decide_eq_true_eq] at h
      exact h.1
    apply Char.toNat_inj.1
    rw [Nat.toNat_digitChar_of_lt_ten hlt]
    show 48 + (c.toNat - 48) = c.toNat
    exact Nat.add_sub_cancel' hge
  rw [digits_eq_toDigits, Nat.toDigits_of_lt_base hlt, hchar]

theorem digits_append_run {n : Nat} (hpos : 0 < n) {run : List Char}
    (h : ∀ c ∈ run, isDigit c = true) :
    digits n ++ run = digits (Nat.ofDigitChars 10 run n) := by
  induction run generalizing n with
  | nil => simp
  | cons c rest ih =>
      have hc := h c List.mem_cons_self
      have hrest : ∀ d ∈ rest, isDigit d = true := fun d hd => h d (List.mem_cons_of_mem c hd)
      have hstep : digits n ++ [c] = digits (10 * n + (c.toNat - '0'.toNat)) := by
        rw [← digits_of_digit hc]
        simp only [digits_eq_toDigits]
        exact Nat.toDigits_append_toDigits (by decide) hpos (digit_value_lt hc)
      calc digits n ++ c :: rest
        _ = (digits n ++ [c]) ++ rest := by simp
        _ = digits (10 * n + (c.toNat - '0'.toNat)) ++ rest := by rw [hstep]
        _ = digits (Nat.ofDigitChars 10 rest (10 * n + (c.toNat - '0'.toNat))) :=
          ih (by omega) hrest
        _ = digits (Nat.ofDigitChars 10 (c :: rest) n) := by rw [Nat.ofDigitChars_cons]

/-- What a run denotes is written with the digits of the run, superfluous zeros left out. -/
theorem digits_value {run : List Char} (hne : run ≠ []) (h : ∀ c ∈ run, isDigit c = true) :
    digits (value run) = canonical run := by
  fun_induction canonical run with
  | case1 c rest ih =>
      rw [value_cons '0', Nat.sub_self, Nat.mul_zero, Nat.zero_add]
      exact ih (List.cons_ne_nil c rest) fun d hd => h d (List.mem_cons_of_mem '0' hd)
  | case2 run hrun =>
      obtain ⟨c, rest, rfl⟩ := List.exists_cons_of_ne_nil hne
      have hc := h c List.mem_cons_self
      have hrest : ∀ d ∈ rest, isDigit d = true := fun d hd => h d (List.mem_cons_of_mem c hd)
      have hvalue : value (c :: rest) = Nat.ofDigitChars 10 rest (c.toNat - '0'.toNat) := by
        rw [value, Nat.ofDigitChars_cons, Nat.mul_zero, Nat.zero_add]
      rw [hvalue]
      by_cases hzero : c = '0'
      · subst hzero
        cases rest with
        | nil => exact digits_of_digit hc
        | cons d more => exact (hrun d more rfl).elim
      · rw [← digits_append_run (digit_value_pos hc hzero) hrest, digits_of_digit hc]
        rfl

/-! ## Texts -/

theorem text_toList (i : Int) :
    (text i).toList = if i < 0 then '-' :: digits i.natAbs else digits i.natAbs := by
  unfold text digits
  split
  · rw [String.toList_append]
    rfl
  · rfl

/-- The text of an integer is a run of digits, behind a minus sign where it is negative. -/
theorem mem_text {i : Int} {c : Char} (h : c ∈ (text i).toList) : c = '-' ∨ isDigit c = true := by
  rw [text_toList] at h
  split at h
  · exact (List.mem_cons.1 h).imp_right isDigit_of_mem_digits
  · exact .inr (isDigit_of_mem_digits h)

theorem digits_inj {m n : Nat} (h : digits m = digits n) : m = n := by
  rw [← value_digits m, h, value_digits]

theorem minus_ne_digits (rest : List Char) (n : Nat) : '-' :: rest ≠ digits n := by
  intro h
  have hminus : isDigit '-' = true := isDigit_of_mem_digits (h ▸ List.mem_cons_self)
  cases hminus

theorem text_inj {i j : Int} (h : text i = text j) : i = j := by
  have hlist := congrArg String.toList h
  rw [text_toList, text_toList] at hlist
  split at hlist
  · split at hlist
    · have habs := digits_inj (List.cons.inj hlist).2
      omega
    · exact (minus_ne_digits _ _ hlist).elim
  · split at hlist
    · exact (minus_ne_digits _ _ hlist.symm).elim
    · have habs := digits_inj hlist
      omega

end Positional.Numeral
