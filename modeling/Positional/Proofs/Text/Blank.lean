import Positional.Text.Blank
import Mathlib.Data.List.DropRight

/-!
# What trimming leaves

Trimming cuts a text into blanks, a core that neither starts nor ends with a blank, and blanks.
-/

namespace Positional.Text

variable (blank : Char → Bool) (text : List Char)

theorem trim_eq_rdropWhile : trim blank text = (text.dropWhile blank).rdropWhile blank := rfl

theorem exists_trim_append :
    ∃ front back, text = front ++ (trim blank text ++ back) ∧
      (∀ c ∈ front, blank c = true) ∧ ∀ c ∈ back, blank c = true := by
  refine ⟨text.takeWhile blank, (text.dropWhile blank).rtakeWhile blank, ?_, ?_, ?_⟩
  · rw [trim_eq_rdropWhile, List.rdropWhile_append_rtakeWhile, List.takeWhile_append_dropWhile]
  · exact List.all_eq_true.1 List.all_takeWhile
  · exact fun c hc => List.mem_rtakeWhile_imp hc

theorem blank_head_trim {c : Char} (h : (trim blank text).head? = some c) : blank c = false := by
  obtain ⟨back, hback⟩ := List.rdropWhile_prefix blank (text.dropWhile blank)
  have hhead : (text.dropWhile blank).head? = some c := by
    rw [← hback, List.head?_append, ← trim_eq_rdropWhile, h, Option.some_or]
  have hnot := List.head?_dropWhile_not blank text
  rw [hhead] at hnot
  exact hnot

theorem blank_getLast_trim {c : Char} (h : (trim blank text).getLast? = some c) :
    blank c = false := by
  have hne : trim blank text ≠ [] := by
    intro hnil
    rw [hnil] at h
    cases h
  have hlast := List.rdropWhile_last_not blank (text.dropWhile blank) hne
  rw [List.getLast?_eq_some_getLast hne] at h
  obtain rfl := Option.some.inj h
  exact Bool.eq_false_iff.2 hlast

variable {blank}

/-- Blanks around a text that neither starts nor ends with one are dropped. -/
theorem trim_append {front core back : List Char} (hne : core ≠ [])
    (hfirst : core.head?.all (fun c => !blank c) = true)
    (hlast : core.getLast?.all (fun c => !blank c) = true) (hfront : ∀ c ∈ front, blank c = true)
    (hback : ∀ c ∈ back, blank c = true) : trim blank (front ++ (core ++ back)) = core := by
  obtain ⟨c, rest, rfl⟩ := List.exists_cons_of_ne_nil hne
  have hc : ¬ blank c = true := by simpa using hfirst
  have hself := trim_eq_self hfirst hlast
  rw [trim, List.dropWhile_cons_of_neg hc] at hself
  rw [trim, List.dropWhile_append_of_pos hfront, List.cons_append, List.dropWhile_cons_of_neg hc,
    ← List.cons_append, List.reverse_append,
    List.dropWhile_append_of_pos fun d hd => hback d (List.mem_reverse.1 hd)]
  exact hself

end Positional.Text
