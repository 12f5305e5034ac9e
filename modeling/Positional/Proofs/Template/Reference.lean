import Positional.Template.Scan
import Positional.Proofs.Template.Token

/-!
# Reading one reference

After a single opening brace only digits and a closing brace are a reference.  Every other text is
refused, and the lemmas below say with which fault: they split on what stops the run of digits, then
on the size of the run.  The lengths are compared before the value is, which refuses nothing that
the value would let pass.
-/

namespace Positional.Template

/-- A run of digits that is too long to be read, though no more of it is significant than the
ceiling has digits. -/
structure IsOverlong (ceiling : Int) (run : List Char) : Prop where
  digits : ∀ c ∈ run, Numeral.isDigit c = true
  long : Numeral.digitLimit < run.length
  short : (Numeral.significant run).length ≤ (Numeral.text ceiling).length

theorem IsOverlong.ne_nil {ceiling : Int} {run : List Char} (h : IsOverlong ceiling run) :
    run ≠ [] :=
  List.length_pos_iff.1 (Nat.zero_lt_of_lt h.long)

/-- Leading zeros alone can make a run overlong, whatever the ceiling. -/
theorem isOverlong_zeros (ceiling : Int) {count : Nat} (h : Numeral.digitLimit < count) :
    IsOverlong ceiling (List.replicate count '0') := by
  have hzero : ∀ c ∈ List.replicate count '0', c = '0' := fun c hmem =>
    (List.mem_replicate.1 hmem).2
  have hsignificant : Numeral.significant (List.replicate count '0') = [] :=
    List.dropWhile_eq_nil_iff.2 fun c hmem => decide_eq_true (hzero c hmem)
  refine ⟨fun c hmem => ?_, ?_, ?_⟩
  · rw [hzero c hmem]
    decide
  · rw [List.length_replicate]
    exact h
  · rw [hsignificant]
    exact Nat.zero_le _

variable {ceiling : Int} {offset : Nat} {run rest : List Char} {found : Char}

theorem readReference_unterminated (hrun : ∀ c ∈ run, Numeral.isDigit c = true) :
    readReference ceiling offset run = .error (malformed .unterminated offset) := by
  have hdrop : run.dropWhile Numeral.isDigit = [] := List.dropWhile_eq_nil_iff.2 hrun
  simp [readReference, hdrop]

theorem readReference_missingIndex (hfound : Numeral.isDigit found = false) :
    readReference ceiling offset (found :: rest) =
      .error (malformed (.missingIndex found) offset) := by
  simp [readReference, hfound]

theorem readReference_missingClose (hne : run ≠ []) (hrun : ∀ c ∈ run, Numeral.isDigit c = true)
    (hfound : Numeral.isDigit found = false) (hclose : found ≠ '}') :
    readReference ceiling offset (run ++ found :: rest) =
      .error (malformed (.missingClose found) offset) := by
  rw [readReference, Numeral.takeWhile_run hrun hfound, Numeral.dropWhile_run hrun hfound]
  simp [hne, hclose]

/-- A run of digits between braces is judged by its length first, then by its value. -/
theorem readReference_closed (hne : run ≠ []) (hrun : ∀ c ∈ run, Numeral.isDigit c = true) :
    readReference ceiling offset (run ++ '}' :: rest) =
      if (Numeral.text ceiling).length < (Numeral.significant run).length then
        .error (malformed (.aboveCeiling ceiling) offset)
      else if Numeral.digitLimit < run.length then .error (.unreadableInteger run.length)
      else if ceiling < Numeral.value run then
        .error (malformed (.aboveCeiling ceiling) offset)
      else .ok ⟨Numeral.value run, run.length, rest⟩ := by
  have hbrace : Numeral.isDigit '}' = false := by decide
  rw [readReference, Numeral.takeWhile_run hrun hbrace, Numeral.dropWhile_run hrun hbrace]
  by_cases hlimit : Numeral.digitLimit < run.length
  · have hread : Numeral.read run = .error (.unreadableInteger run.length) :=
      if_neg (Nat.not_le.2 hlimit)
    simp [hne, hread, hlimit, bind, Except.bind]
  · have hread : Numeral.read run = .ok (Numeral.value run) := if_pos (Nat.not_lt.1 hlimit)
    simp [hne, hread, hlimit, bind, Except.bind]

theorem readReference_legal (hlegal : (Token.reference run).IsLegal ceiling) :
    readReference ceiling offset (run ++ '}' :: rest) =
      .ok ⟨Numeral.value run, run.length, rest⟩ := by
  obtain ⟨hne, hrun, hlimit, hvalue⟩ := hlegal
  have hwidth : ¬ (Numeral.text ceiling).length < (Numeral.significant run).length := fun h =>
    absurd (Numeral.lt_value_of_text_length_lt hrun h) (by omega)
  rw [readReference_closed hne hrun, if_neg hwidth, if_neg (by omega), if_neg (by omega)]

theorem readReference_aboveCeiling (hne : run ≠ [])
    (hrun : ∀ c ∈ run, Numeral.isDigit c = true) (hvalue : ceiling < Numeral.value run)
    (hread : run.length ≤ Numeral.digitLimit ∨
      (Numeral.text ceiling).length < (Numeral.significant run).length) :
    readReference ceiling offset (run ++ '}' :: rest) =
      .error (malformed (.aboveCeiling ceiling) offset) := by
  rw [readReference_closed hne hrun]
  by_cases hwidth : (Numeral.text ceiling).length < (Numeral.significant run).length
  · rw [if_pos hwidth]
  · rw [if_neg hwidth, if_neg (by omega), if_pos hvalue]

theorem readReference_unreadable (h : IsOverlong ceiling run) :
    readReference ceiling offset (run ++ '}' :: rest) =
      .error (.unreadableInteger run.length) := by
  rw [readReference_closed h.ne_nil h.digits, if_neg (Nat.not_lt.2 h.short), if_pos h.long]

end Positional.Template
