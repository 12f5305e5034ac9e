import Positional.Double.Reading
import Positional.Proofs.Numeral

/-!
# Decimal texts

The grammar of decimal texts: an optional sign, digits with an optional point among them, and an
optional exponent.  A text is read into parts exactly if it is written in this way, and such a text
is read leniently as the number that its parts denote.
-/

namespace Positional

namespace Numeral

/-- A sign that may be missing, and whether it is a minus sign. -/
inductive Sign : List Char → Bool → Prop
  | absent : Sign [] false
  | plus : Sign ['+'] false
  | minus : Sign ['-'] true

theorem Sign.mem_cases {sign : List Char} {negative : Bool} (h : Sign sign negative) {c : Char}
    (hc : c ∈ sign) : c = '+' ∨ c = '-' := by
  cases h <;> simp_all

theorem exists_splitSign (text : List Char) :
    ∃ sign, text = sign ++ (splitSign text).2 ∧ Sign sign (splitSign text).1 := by
  fun_cases splitSign text with
  | case1 rest => exact ⟨_, rfl, .plus⟩
  | case2 rest => exact ⟨_, rfl, .minus⟩
  | case3 _ _ => exact ⟨_, rfl, .absent⟩

theorem splitSign_append {sign rest : List Char} {negative : Bool} (h : Sign sign negative)
    (hplus : rest.head? ≠ some '+') (hminus : rest.head? ≠ some '-') :
    splitSign (sign ++ rest) = (negative, rest) := by
  cases h with
  | plus => rfl
  | minus => rfl
  | absent =>
      rw [List.nil_append]
      fun_cases splitSign rest with
      | case1 more => exact (hplus rfl).elim
      | case2 more => exact (hminus rfl).elim
      | case3 _ _ => rfl

theorem mem_of_isDigit {c : Char} (h : isDigit c = true) :
    c ∈ ['0', '1', '2', '3', '4', '5', '6', '7', '8', '9'] := by
  simp only [isDigit, Bool.and_eq_true, decide_eq_true_eq] at h
  have hlow : 48 ≤ c.toNat := h.1
  have hhigh : c.toNat ≤ 57 := h.2
  have hcodes : ∀ code < 58, 48 ≤ code →
      Char.ofNat code ∈ ['0', '1', '2', '3', '4', '5', '6', '7', '8', '9'] := by decide
  have hmem := hcodes c.toNat (by omega) hlow
  rwa [Char.ofNat_toNat] at hmem

/-- A run of digits is the longest one in front of a text that does not go on with a digit. -/
theorem span_run {run rest : List Char} (hrun : ∀ c ∈ run, isDigit c = true)
    (hrest : ∀ c, rest.head? = some c → isDigit c = false) :
    (run ++ rest).takeWhile isDigit = run ∧ (run ++ rest).dropWhile isDigit = rest := by
  cases rest with
  | nil =>
      rw [List.append_nil, List.takeWhile_eq_self_iff.2 hrun, List.dropWhile_eq_nil_iff.2 hrun]
      exact ⟨rfl, rfl⟩
  | cons c more => exact ⟨takeWhile_run hrun (hrest c rfl), dropWhile_run hrun (hrest c rfl)⟩

end Numeral

namespace Double.Parts

open Numeral (Sign isDigit)

/-! ## The grammar -/

/-- A point with the digits after it, none if there is no point. -/
inductive Fraction : List Char → Option (List Char) → Prop
  | absent : Fraction [] none
  | point {digits : List Char} :
      (∀ c ∈ digits, isDigit c = true) → Fraction ('.' :: digits) (some digits)

/-- An exponent with its sign and digits, none if there is no exponent. -/
inductive Exponent : List Char → Option (Bool × List Char) → Prop
  | absent : Exponent [] none
  | marked {mark : Char} {sign digits : List Char} {negative : Bool} :
      mark = 'e' ∨ mark = 'E' → Sign sign negative → digits ≠ [] →
        (∀ c ∈ digits, isDigit c = true) →
          Exponent (mark :: (sign ++ digits)) (some (negative, digits))

/-- A number as it is written, with digits on at least one side of the point. -/
inductive Written : List Char → Parts → Prop
  | mk {sign whole point power : List Char} {negative : Bool} {fraction : Option (List Char)}
      {exponent : Option (Bool × List Char)} :
      Sign sign negative → (∀ c ∈ whole, isDigit c = true) → Fraction point fraction →
        Exponent power exponent → whole ≠ [] ∨ fraction.getD [] ≠ [] →
          Written (sign ++ (whole ++ (point ++ power))) ⟨negative, whole, fraction, exponent⟩

variable {text point power : List Char} {fraction : Option (List Char)}
  {exponent : Option (Bool × List Char)} {parts : Parts}

/-! ## Reading the parts -/

theorem Exponent.head_cases (h : Exponent power exponent) {c : Char}
    (hc : power.head? = some c) : c = 'e' ∨ c = 'E' := by
  cases h with
  | absent => cases hc
  | marked hmark _ _ _ =>
      obtain rfl := Option.some.inj hc
      exact hmark

theorem exists_readFraction (text : List Char) :
    ∃ point, text = point ++ (readFraction text).2 ∧ Fraction point (readFraction text).1 := by
  fun_cases readFraction text with
  | case1 rest =>
      refine ⟨'.' :: rest.takeWhile isDigit, ?_, .point (List.all_eq_true.1 List.all_takeWhile)⟩
      rw [List.cons_append, List.takeWhile_append_dropWhile]
  | case2 _ => exact ⟨_, rfl, .absent⟩

/-- What stands behind the digits before the point starts with no digit. -/
theorem isDigit_head_fraction (hpoint : Fraction point fraction) (hpower : Exponent power exponent)
    {c : Char} (hc : (point ++ power).head? = some c) : isDigit c = false := by
  cases hpoint with
  | absent => rcases hpower.head_cases hc with rfl | rfl <;> rfl
  | point _ =>
      obtain rfl := Option.some.inj hc
      rfl

/-- A number without its sign starts with a digit or a point. -/
theorem head_unsigned {whole : List Char} (power : List Char)
    (hwhole : ∀ c ∈ whole, isDigit c = true)
    (hpoint : Fraction point fraction) (hdigits : whole ≠ [] ∨ fraction.getD [] ≠ []) :
    ∃ c rest, whole ++ (point ++ power) = c :: rest ∧ (isDigit c = true ∨ c = '.') := by
  cases whole with
  | cons c rest => exact ⟨c, _, rfl, .inl (hwhole c List.mem_cons_self)⟩
  | nil =>
      cases hpoint with
      | absent => simp at hdigits
      | point _ => exact ⟨'.', _, rfl, .inr rfl⟩

theorem splitSign_written {sign whole : List Char} {negative : Bool} (power : List Char)
    (hsign : Sign sign negative) (hwhole : ∀ c ∈ whole, isDigit c = true)
    (hpoint : Fraction point fraction) (hdigits : whole ≠ [] ∨ fraction.getD [] ≠ []) :
    Numeral.splitSign (sign ++ (whole ++ (point ++ power))) =
      (negative, whole ++ (point ++ power)) := by
  obtain ⟨c, rest, hunsigned, hc⟩ := head_unsigned power hwhole hpoint hdigits
  rw [hunsigned]
  have hhead : ∀ mark, isDigit mark = false → mark ≠ '.' → (c :: rest).head? ≠ some mark := by
    intro mark hdigit hpoint hsome
    obtain rfl := Option.some.inj hsome
    rcases hc with hc | hc
    · rw [hdigit] at hc
      cases hc
    · exact hpoint hc
  exact Numeral.splitSign_append hsign (hhead '+' rfl (by decide)) (hhead '-' rfl (by decide))

theorem readFraction_append (hpoint : Fraction point fraction) (hpower : Exponent power exponent) :
    readFraction (point ++ power) = (fraction, power) := by
  cases hpoint with
  | absent =>
      rw [List.nil_append]
      fun_cases readFraction power with
      | case1 rest => rcases hpower.head_cases rfl with h | h <;> cases h
      | case2 _ => rfl
  | point hdigits =>
      have hhead : ∀ c, power.head? = some c → isDigit c = false :=
        fun c hc => isDigit_head_fraction .absent hpower hc
      obtain ⟨htake, hdrop⟩ := Numeral.span_run hdigits hhead
      rw [List.cons_append, readFraction, htake, hdrop]

theorem splitSign_digits {sign digits : List Char} {negative : Bool} (hsign : Sign sign negative)
    (hdigits : ∀ c ∈ digits, isDigit c = true) :
    Numeral.splitSign (sign ++ digits) = (negative, digits) := by
  have hhead : ∀ c, isDigit c = false → digits.head? ≠ some c := by
    intro c hc hsome
    rw [hdigits c (List.mem_of_mem_head? hsome)] at hc
    cases hc
  exact Numeral.splitSign_append hsign (hhead '+' rfl) (hhead '-' rfl)

theorem readExponent?_cons {mark : Char} {rest : List Char} :
    readExponent? (mark :: rest) = some exponent ↔
      ((mark = 'e' ∨ mark = 'E') ∧ (Numeral.splitSign rest).2 ≠ [] ∧
        ∀ c ∈ (Numeral.splitSign rest).2, isDigit c = true) ∧
          some (Numeral.splitSign rest) = exponent := by
  rw [readExponent?]
  simp only [Option.ite_none_right_eq_some, Option.some.injEq, Bool.and_eq_true, Bool.or_eq_true,
    decide_eq_true_eq, Bool.not_eq_true', List.isEmpty_eq_false_iff, List.all_eq_true, and_assoc]

theorem readExponent?_eq_some_iff :
    readExponent? text = some exponent ↔ Exponent text exponent := by
  constructor
  · intro h
    cases text with
    | nil =>
        obtain rfl := Option.some.inj h
        exact .absent
    | cons mark rest =>
        obtain ⟨sign, hrest, hsign⟩ := Numeral.exists_splitSign rest
        obtain ⟨⟨hmark, hne, hdigits⟩, rfl⟩ := readExponent?_cons.1 h
        have hmarked := Exponent.marked hmark hsign hne hdigits
        rwa [← hrest] at hmarked
  · intro h
    cases h with
    | absent => rfl
    | marked hmark hsign hne hdigits =>
        rw [readExponent?_cons, splitSign_digits hsign hdigits]
        exact ⟨⟨hmark, hne, hdigits⟩, rfl⟩

theorem read?_eq (text : List Char) :
    read? text =
      let signed := Numeral.splitSign text
      let whole := signed.2.takeWhile isDigit
      let fraction := readFraction (signed.2.dropWhile isDigit)
      (readExponent? fraction.2).bind fun exponent =>
        if whole = [] ∧ fraction.1.getD [] = [] then none
        else some ⟨signed.1, whole, fraction.1, exponent⟩ := by
  simp only [read?, Bool.and_eq_true, List.isEmpty_iff]
  rfl

/-- A text is read into parts exactly if it is written with these parts. -/
theorem read?_eq_some_iff : read? text = some parts ↔ Written text parts := by
  rw [read?_eq]
  constructor
  · intro h
    obtain ⟨sign, htext, hsign⟩ := Numeral.exists_splitSign text
    obtain ⟨point, hpoint, hfraction⟩ :=
      exists_readFraction ((Numeral.splitSign text).2.dropWhile isDigit)
    obtain ⟨exponent, hexponent, hread⟩ := Option.bind_eq_some_iff.1 h
    have hpower := readExponent?_eq_some_iff.1 hexponent
    have hwhole : ∀ c ∈ (Numeral.splitSign text).2.takeWhile isDigit, isDigit c = true :=
      List.all_eq_true.1 List.all_takeWhile
    split at hread
    · cases hread
    · rename_i hdigits
      obtain rfl := Option.some.inj hread
      have hwritten :=
        Written.mk hsign hwhole hfraction hpower (Decidable.not_and_iff_or_not.1 hdigits)
      rwa [← hpoint, List.takeWhile_append_dropWhile, ← htext] at hwritten
  · rintro ⟨hsign, hwhole, hfraction, hpower, hdigits⟩
    rename_i sign whole point power negative fraction exponent
    have hsplit := splitSign_written power hsign hwhole hfraction hdigits
    obtain ⟨htake, hdrop⟩ :=
      Numeral.span_run hwhole fun c => isDigit_head_fraction hfraction hpower
    have hexponent := readExponent?_eq_some_iff.2 hpower
    simp only [hsplit, htake, hdrop, readFraction_append hfraction hpower, hexponent,
      Option.bind_some]
    rw [if_neg (Decidable.not_and_iff_or_not.2 hdigits)]

/-! ## Reading leniently -/

theorem Fraction.mem_cases (h : Fraction point fraction) {c : Char} (hc : c ∈ point) :
    isDigit c = true ∨ c = '.' := by
  cases h with
  | absent => cases hc
  | point hdigits =>
      rcases List.mem_cons.1 hc with rfl | hc
      · exact .inr rfl
      · exact .inl (hdigits c hc)

theorem Exponent.mem_cases (h : Exponent power exponent) {c : Char} (hc : c ∈ power) :
    isDigit c = true ∨ c ∈ ['+', '-', 'e', 'E'] := by
  cases h with
  | absent => cases hc
  | marked hmark hsign _ hdigits =>
      rcases List.mem_cons.1 hc with rfl | hc
      · rcases hmark with rfl | rfl <;> simp
      · rcases List.mem_append.1 hc with hc | hc
        · rcases hsign.mem_cases hc with rfl | rfl <;> simp
        · exact .inl (hdigits c hc)

def alphabet : List Char :=
  ['0', '1', '2', '3', '4', '5', '6', '7', '8', '9'] ++ ['+', '-', '.', 'e', 'E']

theorem mem_alphabet_of_isDigit {c : Char} (h : isDigit c = true) : c ∈ alphabet :=
  List.mem_append_left _ (Numeral.mem_of_isDigit h)

theorem Written.mem_alphabet (h : Written text parts) {c : Char} (hc : c ∈ text) :
    c ∈ alphabet := by
  obtain ⟨hsign, hwhole, hfraction, hpower, -⟩ := h
  simp only [List.mem_append] at hc
  rcases hc with hc | hc | hc | hc
  · rcases hsign.mem_cases hc with rfl | rfl <;> decide
  · exact mem_alphabet_of_isDigit (hwhole c hc)
  · rcases hfraction.mem_cases hc with hc | rfl
    · exact mem_alphabet_of_isDigit hc
    · decide
  · rcases hpower.mem_cases hc with hc | hc
    · exact mem_alphabet_of_isDigit hc
    · simp only [List.mem_cons, List.not_mem_nil, or_false] at hc
      rcases hc with rfl | rfl | rfl | rfl <;> decide

/-- No character of a number is changed or dropped by a lenient reading, and none starts the name
of an infinity or of no number. -/
theorem alphabet_plain : ∀ c ∈ alphabet, Text.asciiDigit c = c ∧ Text.isNumeralBlank c = false ∧
    c ≠ '_' ∧ c.toLower ≠ 'i' ∧ c.toLower ≠ 'n' := by
  have hall : (alphabet.all fun c => Text.asciiDigit c = c && !Text.isNumeralBlank c &&
      c != '_' && c.toLower != 'i' && c.toLower != 'n') = true := by decide
  intro c hc
  simpa [and_assoc] using List.all_eq_true.1 hall c hc

theorem dropUnderscores?_eq_some {text : List Char} (h : '_' ∉ text) (afterDigit : Bool) :
    dropUnderscores? afterDigit text = some text := by
  fun_induction dropUnderscores? afterDigit text with
  | case1 => rfl
  | case2 => simp at h
  | case3 => simp at h
  | case4 => simp at h
  | case5 afterDigit c rest hne hsep ih =>
      rw [ih fun hmem => h (List.mem_cons_of_mem c hmem), Option.map_some]

/-- A number is neither the name of an infinity nor that of no number. -/
theorem readPlain?_of_written (h : Written text parts) : readPlain? text = some parts.toDouble := by
  have hread := read?_eq_some_iff.2 h
  have hplain := fun c hc => alphabet_plain c (h.mem_alphabet hc)
  obtain ⟨hsign, hwhole, hfraction, hpower, hdigits⟩ := h
  rename_i sign whole point power negative fraction exponent
  obtain ⟨c, rest, hunsigned, -⟩ := head_unsigned power hwhole hfraction hdigits
  obtain ⟨-, -, -, hi, hn⟩ := hplain c (by simp [hunsigned])
  have hinfinity : infinityNames.contains ((c :: rest).map Char.toLower) = false := by
    simp [infinityNames, hi]
  have hnan : (c :: rest).map Char.toLower ≠ "nan".toList := by
    simp [hn]
  rw [readPlain?, splitSign_written power hsign hwhole hfraction hdigits, hunsigned]
  simp only [hinfinity, Bool.false_eq_true, if_false, if_neg hnan]
  rw [← hunsigned, hread, Option.map_some]

/-- Reading a number leniently gives the double that its parts denote. -/
theorem read_of_written (h : Written text parts) :
    Double.read (String.ofList text) = .ok parts.toDouble := by
  have hplain := fun c hc => alphabet_plain c (h.mem_alphabet hc)
  have hascii : text.map Text.asciiDigit = text :=
    (List.map_congr_left fun c hc => (hplain c hc).1).trans (List.map_id text)
  have hedge : ∀ edge : Option Char, (∀ c, edge = some c → c ∈ text) →
      edge.all (fun c => !Text.isNumeralBlank c) = true := by
    intro edge hedge
    cases edge with
    | none => rfl
    | some c => simp [(hplain c (hedge c rfl)).2.1]
  have htrim : Text.trim Text.isNumeralBlank text = text :=
    Text.trim_eq_self (hedge _ fun c => List.mem_of_mem_head?)
      (hedge _ fun c => List.mem_of_getLast?)
  have hunderscore : '_' ∉ text := fun hmem => (hplain '_' hmem).2.2.1 rfl
  rw [Double.read, String.toList_ofList, lenient?, hascii, htrim,
    dropUnderscores?_eq_some hunderscore, Option.bind_some, readPlain?_of_written h]

end Double.Parts

end Positional
