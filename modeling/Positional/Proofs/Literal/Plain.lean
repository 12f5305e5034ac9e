import Positional.Proofs.Literal.Forms

/-!
# Arguments that stay text

An argument in which no quote comes first denotes no text, so where it is read as a text it is no
literal and is kept as it is.  Integers with too many digits are the exception: they stay text too,
but the white space around them is dropped.
-/

namespace Positional.Literal

open Numeral (isDigit)

variable {text : String} {shown : LooseText} {core front digits : List Char}

/-! ## Texts that are kept -/

theorem head?_of_denotes_text (h : Denotes core (.text shown)) : core.head? = some '"' := by
  cases h <;> rfl

theorem head?_trim_ne (h : (text.toList.dropWhile Text.isPadding).head? ≠ some '"') :
    (Text.trim Text.isPadding text.toList).head? ≠ some '"' := by
  obtain ⟨back, hback⟩ :=
    List.rdropWhile_prefix Text.isPadding (text.toList.dropWhile Text.isPadding)
  rw [← Text.trim_eq_rdropWhile] at hback
  intro hquote
  apply h
  rw [← hback, List.head?_append, hquote, Option.some_or]

theorem eq_of_read_text (hquote : (Text.trim Text.isPadding text.toList).head? ≠ some '"')
    (hlong : ¬ TooLong (Text.trim Text.isPadding text.toList)) (hread : read text = .text shown) :
    shown = text := by
  rw [read_ofString] at hread
  cases hvalue : value? ((Text.trim Text.isPadding text.toList).map .char) with
  | none =>
      rw [hvalue, Option.getD_none] at hread
      exact (Value.text.inj hread).symm
  | some value =>
      rw [hvalue, Option.getD_some] at hread
      subst hread
      rcases denotes_of_value? hvalue with hdenotes | htoo
      · exact (hquote (head?_of_denotes_text hdenotes)).elim
      · exact (hlong htoo).elim

/-- An argument in which no quote comes first, if it is read as a text, is read as itself, unless it
is an integer with too many digits that has white space around it.  Such an integer is read as the
text without the white space. -/
theorem read_unquoted (text : String)
    (hquote : (text.toList.dropWhile Text.isPadding).head? ≠ some '"') :
    let core := Text.trim Text.isPadding text.toList
    (∀ shown, read text = .text shown →
        (shown = text ↔ (TooLong core → core = text.toList))) ∧
      (TooLong core → read text = .text (String.ofList core)) := by
  intro core
  refine ⟨?_, read_of_tooLong⟩
  intro shown hread
  by_cases hlong : TooLong core
  · have hcore : shown = String.ofList core := by
      rw [read_of_tooLong hlong] at hread
      exact (Value.text.inj hread).symm
    rw [hcore, LooseText.ofString_inj, ← String.toList_inj, String.toList_ofList]
    exact ⟨fun h _ => h, fun h => h hlong⟩
  · constructor
    · exact fun _ htoo => (hlong htoo).elim
    · exact fun _ => eq_of_read_text (head?_trim_ne hquote) hlong hread

/-! ## Long integers -/

theorem isPadding_of_isDigit {c : Char} (h : isDigit c = true) : Text.isPadding c = false := by
  have hall : ∀ d ∈ ['0', '1', '2', '3', '4', '5', '6', '7', '8', '9'],
      Text.isPadding d = false := by simp [Text.isPadding]
  exact hall c (Numeral.mem_of_isDigit h)

theorem trim_digits (hne : digits ≠ []) (hdigits : ∀ c ∈ digits, isDigit c = true)
    (hfront : ∀ c ∈ front, Text.isPadding c = true) :
    Text.trim Text.isPadding (front ++ digits) = digits := by
  have hplain : ∀ c ∈ digits, Text.isPadding c = false :=
    fun c hc => isPadding_of_isDigit (hdigits c hc)
  have htrim : Text.trim Text.isPadding (front ++ (digits ++ [])) = digits := by
    apply Text.trim_append hne _ _ hfront (by simp)
    · rw [List.head?_eq_some_head hne]
      simp [hplain _ (List.head_mem hne)]
    · rw [List.getLast?_eq_some_getLast hne]
      simp [hplain _ (List.getLast_mem hne)]
  rwa [List.append_nil] at htrim

theorem head?_digits_ne_quote (hdigits : ∀ c ∈ digits, isDigit c = true)
    (hfront : ∀ c ∈ front, Text.isPadding c = true) :
    ((front ++ digits).dropWhile Text.isPadding).head? ≠ some '"' := by
  rw [List.dropWhile_append_of_pos hfront]
  intro hquote
  have hmem : '"' ∈ digits := (List.dropWhile_sublist _).subset (List.mem_of_mem_head? hquote)
  exact absurd (hdigits '"' hmem) (by decide)

theorem long_integer (front : List Char) (hdigits : ∀ c ∈ digits, isDigit c = true)
    (hlimit : Numeral.digitLimit < digits.length)
    (hfront : ∀ c ∈ front, Text.isPadding c = true) :
    ((String.ofList (front ++ digits)).toList.dropWhile Text.isPadding).head? ≠ some '"' ∧
      Text.trim Text.isPadding (String.ofList (front ++ digits)).toList = digits ∧
      TooLong digits := by
  have hne : digits ≠ [] := List.ne_nil_of_length_pos (by omega)
  rw [String.toList_ofList]
  exact ⟨head?_digits_ne_quote hdigits hfront, trim_digits hne hdigits hfront,
    [], digits, false, rfl, .absent, hdigits, hlimit⟩

theorem isDigit_of_mem_ones : ∀ c ∈ List.replicate 4301 '1', isDigit c = true := by
  intro c hc
  rw [List.eq_of_mem_replicate hc]
  decide

theorem digitLimit_lt_ones : Numeral.digitLimit < (List.replicate 4301 '1').length := by
  rw [List.length_replicate]
  decide

/-- An integer with one digit too many and nothing around it is kept. -/
theorem read_unquoted_ones :
    ((String.ofList (List.replicate 4301 '1')).toList.dropWhile Text.isPadding).head? ≠ some '"' ∧
      read (String.ofList (List.replicate 4301 '1')) =
        .text (String.ofList (List.replicate 4301 '1')) := by
  obtain ⟨hquote, htrim, hlong⟩ :=
    long_integer [] isDigit_of_mem_ones digitLimit_lt_ones (by simp)
  rw [List.nil_append] at hquote htrim
  obtain ⟨-, hread⟩ := read_unquoted _ hquote
  rw [htrim] at hread
  exact ⟨hquote, hread hlong⟩

/-- With a blank in front, the same integer is read as a text, but the blank is lost. -/
theorem padded_ones_not_kept :
    ((String.ofList (' ' :: List.replicate 4301 '1')).toList.dropWhile Text.isPadding).head? ≠
        some '"' ∧
      read (String.ofList (' ' :: List.replicate 4301 '1')) =
        .text (String.ofList (List.replicate 4301 '1')) ∧
      String.ofList (List.replicate 4301 '1') ≠ String.ofList (' ' :: List.replicate 4301 '1') := by
  obtain ⟨hquote, htrim, hlong⟩ :=
    long_integer [' '] isDigit_of_mem_ones digitLimit_lt_ones (by simp [Text.isPadding])
  rw [List.singleton_append] at hquote htrim
  rw [← htrim] at hlong
  have hread := read_of_tooLong hlong
  rw [htrim] at hread
  refine ⟨hquote, hread, ?_⟩
  intro hsame
  rw [String.ofList_inj] at hsame
  have hcount := congrArg List.length hsame
  rw [List.length_cons] at hcount
  omega

end Positional.Literal
