import Positional.Proofs.Double.Reading
import Positional.Proofs.Template.Reader
import Positional.Proofs.Text.Blank
import Mathlib.Data.Nat.Digits.Defs

/-!
# Integers set by variables

A variable sets an integer if its text, white space around it apart, is written as an integer of at
least the minimum.  Otherwise the default is used, and a text that is not blank is warned about.
What is used can always be written, so a scan with the ceiling that the environment sets never fails
on the ceiling itself.
-/

namespace Positional

attribute [local instance (high)] instPowNat

/-! ## Digits of all scripts -/

namespace Text

/-- A decimal digit of some script, as far from the zero of the script as its value says. -/
def HasDigitValue (c : Char) (value : Nat) : Prop :=
  value < 10 ∧ ∃ start ∈ zeroCodes, c.toNat = start + value

theorem zeroCodes_apart : ∀ a ∈ zeroCodes, ∀ b ∈ zeroCodes, a < b → a + 10 ≤ b := by
  decide +kernel

variable {c : Char} {value : Nat}

/-- A character is a digit of one script at most, so it has one value. -/
theorem digitValue?_eq_some_iff : digitValue? c = some value ↔ HasDigitValue c value := by
  have hfound : ∀ {start}, (zeroCodes.find? fun start => start ≤ c.toNat && c.toNat < start + 10) =
      some start → start ∈ zeroCodes ∧ start ≤ c.toNat ∧ c.toNat < start + 10 := by
    intro start hstart
    refine ⟨List.mem_of_find?_eq_some hstart, ?_⟩
    simpa using List.find?_some hstart
  constructor
  · intro h
    obtain ⟨start, hstart, rfl⟩ := Option.map_eq_some_iff.1 h
    obtain ⟨hmem, hle, hlt⟩ := hfound hstart
    exact ⟨by omega, start, hmem, by omega⟩
  · rintro ⟨hvalue, start, hmem, hcode⟩
    unfold digitValue?
    cases hsearch : zeroCodes.find? fun start => start ≤ c.toNat && c.toNat < start + 10 with
    | none =>
        have hnone := List.find?_eq_none.1 hsearch start hmem
        simp only [Bool.and_eq_true, decide_eq_true_eq] at hnone
        omega
    | some other =>
        obtain ⟨hother, hle, hlt⟩ := hfound hsearch
        have hbelow := zeroCodes_apart other hother start hmem
        have habove := zeroCodes_apart start hmem other hother
        obtain rfl : other = start := by omega
        rw [Option.map_some, hcode, Nat.add_sub_cancel_left]

theorem HasDigitValue.ne_of_lt {mark : Char} (h : HasDigitValue c value)
    (hmark : mark.toNat < 0x30 ∨ mark.toNat = 0x5F) : c ≠ mark := by
  rintro rfl
  obtain ⟨hvalue, start, hmem, hcode⟩ := h
  have hstart : ∀ start ∈ zeroCodes, start = 0x30 ∨ 0x660 ≤ start := by decide
  have := hstart start hmem
  omega

theorem isBlank_of_isNumeralBlank (h : isNumeralBlank c = true) : isBlank c = true := by
  simp only [isNumeralBlank, isPadding, Bool.or_eq_true, Bool.and_eq_true, decide_eq_true_eq] at h
  rcases h with (((((rfl | rfl) | rfl) | rfl) | rfl) | rfl) | ⟨-, h⟩
  · rfl
  · rfl
  · rfl
  · rfl
  · rfl
  · rfl
  · exact h

end Text

/-! ## Lenient numerals -/

namespace Numeral

/-- Digits of any script with single underscores between them, and the values of the digits. -/
inductive Separated : List Char → List Nat → Prop
  | last {c : Char} {value : Nat} : Text.HasDigitValue c value → Separated [c] [value]
  | next {c : Char} {value : Nat} {rest : List Char} {values : List Nat} :
      Text.HasDigitValue c value → Separated rest values → Separated (c :: rest) (value :: values)
  | underscore {c : Char} {value : Nat} {rest : List Char} {values : List Nat} :
      Text.HasDigitValue c value → Separated rest values →
        Separated (c :: '_' :: rest) (value :: values)

/-- A text that is written as an integer: white space, a sign, digits with underscores between them,
no more digits than can be read, and white space. -/
inductive Lenient : List Char → Int → Prop
  | mk {front sign body back : List Char} {negative : Bool} {values : List Nat} :
      (∀ c ∈ front, Text.isNumeralBlank c = true) → Sign sign negative → Separated body values →
        values.length ≤ digitLimit → (∀ c ∈ back, Text.isNumeralBlank c = true) →
          Lenient (front ++ (sign ++ (body ++ back)))
            (signed negative (Nat.ofDigits 10 values.reverse))

variable {body : List Char} {values : List Nat} {i : Int}

theorem Separated.exists_cons (h : Separated body values) :
    ∃ c rest value, body = c :: rest ∧ Text.HasDigitValue c value := by
  cases h with
  | last hc => exact ⟨_, _, _, rfl, hc⟩
  | next hc _ => exact ⟨_, _, _, rfl, hc⟩
  | underscore hc _ => exact ⟨_, _, _, rfl, hc⟩

theorem lenientDigits?_of_separated (h : Separated body values) :
    lenientDigits? body = some values := by
  induction h with
  | last hc => simp [lenientDigits?, Text.digitValue?_eq_some_iff.2 hc]
  | next hc hrest ih =>
      obtain ⟨d, more, digit, rfl, hd⟩ := hrest.exists_cons
      have hd : d ≠ '_' := hd.ne_of_lt (.inr rfl)
      simp [lenientDigits?, Text.digitValue?_eq_some_iff.2 hc, ih, hd]
  | underscore hc _ ih => simp [lenientDigits?, Text.digitValue?_eq_some_iff.2 hc, ih]

theorem separated_of_lenientDigits? (h : lenientDigits? body = some values) :
    Separated body values := by
  fun_induction lenientDigits? body generalizing values with
  | case1 => cases h
  | case2 c =>
      obtain ⟨value, hvalue, rfl⟩ := Option.map_eq_some_iff.1 h
      exact .last (Text.digitValue?_eq_some_iff.1 hvalue)
  | case3 c rest ih =>
      obtain ⟨value, hvalue, others, hothers, rfl⟩ := by
        simpa [Option.bind_eq_some_iff] using h
      exact .underscore (Text.digitValue?_eq_some_iff.1 hvalue) (ih hothers)
  | case4 c rest hne hsep ih =>
      obtain ⟨value, hvalue, others, hothers, rfl⟩ := by
        simpa [Option.bind_eq_some_iff] using h
      exact .next (Text.digitValue?_eq_some_iff.1 hvalue) (ih hothers)

theorem ofDigitValues_eq_ofDigits (values : List Nat) :
    ofDigitValues values = Nat.ofDigits 10 values.reverse := by
  induction values using List.reverseRecOn with
  | nil => rfl
  | append_singleton values value ih =>
      rw [ofDigitValues_append_singleton, ih, List.reverse_append, List.reverse_singleton,
        List.singleton_append, Nat.ofDigits_cons, Nat.add_comm]

/-- What is read leniently is written as an integer, without white space around it. -/
theorem lenient_of_lenient? {text : List Char} (h : lenient? text = some i) : Lenient text i := by
  obtain ⟨sign, htext, hsign⟩ := exists_splitSign text
  unfold lenient? at h
  obtain ⟨values, hvalues, hread⟩ := Option.bind_eq_some_iff.1 h
  by_cases hlimit : values.length ≤ digitLimit
  · rw [if_pos hlimit] at hread
    obtain rfl := Option.some.inj hread
    have hwritten : Lenient ([] ++ (sign ++ ((splitSign text).2 ++ []))) _ :=
      .mk (by simp) hsign (separated_of_lenientDigits? hvalues) hlimit (by simp)
    rw [ofDigitValues_eq_ofDigits]
    rwa [List.nil_append, List.append_nil, ← htext] at hwritten
  · rw [if_neg hlimit] at hread
    cases hread

theorem lenient?_of_separated {sign : List Char} {negative : Bool} (hsign : Sign sign negative)
    (hbody : Separated body values) (hlimit : values.length ≤ digitLimit) :
    lenient? (sign ++ body) = some (signed negative (Nat.ofDigits 10 values.reverse)) := by
  obtain ⟨c, rest, value, rfl, hc⟩ := hbody.exists_cons
  have hhead : ∀ mark, mark.toNat < 0x30 → (c :: rest).head? ≠ some mark := by
    intro mark hmark hsome
    exact hc.ne_of_lt (.inl hmark) (Option.some.inj hsome)
  unfold lenient?
  rw [splitSign_append hsign (hhead '+' (by decide)) (hhead '-' (by decide))]
  simp [lenientDigits?_of_separated hbody, hlimit, ofDigitValues_eq_ofDigits]

/-- A text without blanks around it is read leniently exactly if it is written as an integer. -/
theorem lenient?_eq_some_iff {text : List Char}
    (hfirst : ∀ c, text.head? = some c → Text.isBlank c = false)
    (hlast : ∀ c, text.getLast? = some c → Text.isBlank c = false) :
    lenient? text = some i ↔ Lenient text i := by
  refine ⟨lenient_of_lenient?, ?_⟩
  rintro ⟨hfront, hsign, hbody, hlimit, hback⟩
  rename_i front sign body back negative values
  have hnofront : front = [] := by
    cases front with
    | nil => rfl
    | cons c rest =>
        have hblank := Text.isBlank_of_isNumeralBlank (hfront c List.mem_cons_self)
        rw [hfirst c rfl] at hblank
        cases hblank
  have hnoback : back = [] := by
    cases hend : back.getLast? with
    | none => exact List.getLast?_eq_none_iff.1 hend
    | some c =>
        have hblank := Text.isBlank_of_isNumeralBlank (hback c (List.mem_of_getLast? hend))
        rw [hlast c (by simp [List.getLast?_append, hend])] at hblank
        cases hblank
  rw [hnofront, hnoback, List.nil_append, List.append_nil]
  exact lenient?_of_separated hsign hbody hlimit

end Numeral

/-! ## Settings -/

namespace Settings

/-- What is left of a text without the white space at both of its ends. -/
structure Stripped (text core : List Char) : Prop where
  around : ∃ front back, text = front ++ (core ++ back) ∧
    (∀ c ∈ front, Text.isBlank c = true) ∧ ∀ c ∈ back, Text.isBlank c = true
  first (c : Char) : core.head? = some c → Text.isBlank c = false
  last (c : Char) : core.getLast? = some c → Text.isBlank c = false

theorem stripped_toList (value : Option String) :
    Stripped (value.getD "").toList (stripped value).toList := by
  rw [stripped, String.toList_ofList]
  exact ⟨Text.exists_trim_append _ _, fun c => Text.blank_head_trim _ _,
    fun c => Text.blank_getLast_trim _ _⟩

/-- What a variable sets, and what is logged then, from its text without white space around it. -/
inductive Settles (name : String) (default minimum : Int) (core : List Char) : Logged Int → Prop
  | blank : core = [] → Settles name default minimum core ⟨default, []⟩
  | used {i : Int} : core ≠ [] → Numeral.Lenient core i → minimum ≤ i →
      Settles name default minimum core ⟨i, []⟩
  | tooSmall {i : Int} : core ≠ [] → Numeral.Lenient core i → i < minimum →
      Numeral.write i = .ok (Numeral.text i) →
        Settles name default minimum core
          ⟨default, [⟨.warning, (Rejection.tooSmall i).message name default minimum⟩]⟩
  | notInteger : core ≠ [] → (∀ i, ¬ Numeral.Lenient core i) →
      Settles name default minimum core
        ⟨default, [⟨.warning,
          (Rejection.notInteger (String.ofList core)).message name default minimum⟩]⟩

theorem settles_integer (name : String) (value : Option String) (default minimum : Int) :
    Settles name default minimum (stripped value).toList (integer name value default minimum) := by
  have hstripped := stripped_toList value
  have hlenient : ∀ {i}, Numeral.lenient? (stripped value).toList = some i ↔
      Numeral.Lenient (stripped value).toList i :=
    Numeral.lenient?_eq_some_iff hstripped.first hstripped.last
  unfold integer
  dsimp only
  by_cases hblank : stripped value = ""
  · rw [if_pos hblank]
    exact .blank (by rw [hblank]; rfl)
  · have hne : (stripped value).toList ≠ [] := fun h => hblank (String.toList_eq_nil_iff.1 h)
    rw [if_neg hblank, readInteger]
    cases hread : Numeral.lenient? (stripped value).toList with
    | none =>
        have hnot : ∀ i, ¬ Numeral.Lenient (stripped value).toList i := by
          intro i hi
          rw [hlenient.2 hi] at hread
          cases hread
        have hwarned : Settles name default minimum (stripped value).toList _ :=
          .notInteger hne hnot
        rwa [String.ofList_toList] at hwarned
    | some i =>
        have hi := hlenient.1 hread
        dsimp only
        by_cases hsmall : i < minimum
        · rw [if_pos hsmall]
          exact .tooSmall hne hi hsmall (if_pos (Numeral.isWritable_of_lenient? hread))
        · rw [if_neg hsmall]
          exact .used hne hi (by omega)

/-- The ceiling and the port that an environment sets are what its variables hold, where that is an
integer in range, and the defaults otherwise.  The ceiling can be written, and a scan that is given
it is the scan that is given none. -/
theorem environment_in_range (env : Environment) :
    (∃ core, Stripped (env.maxIndex.getD "").toList core ∧
        Settles Environment.maxIndexName defaultMaxIndex 0 core (maxIndex env)) ∧
      (∃ core, Stripped (env.port.getD "").toList core ∧
        Settles Environment.portName defaultPort 1 core (port env)) ∧
      0 ≤ (maxIndex env).result ∧ (maxIndex env).result.natAbs < 10 ^ Numeral.digitLimit ∧
      1 ≤ (port env).result ∧
      Numeral.write (maxIndex env).result = .ok (Numeral.text (maxIndex env).result) ∧
      ∀ template other, ((Reader.fresh template none).drain env).result =
        ((Reader.fresh template (some (maxIndex env).result)).drain other).result := by
  have hwritable := isWritable_maxIndex env
  refine ⟨⟨_, stripped_toList env.maxIndex, settles_integer _ _ _ _⟩,
    ⟨_, stripped_toList env.port, settles_integer _ _ _ _⟩, maxIndex_nonneg env,
    of_decide_eq_true hwritable, integer_ge (by decide), if_pos hwritable, ?_⟩
  intro template other
  exact Reader.drain_fresh_settled env other template none

/-- The digits of a numeral may be of several scripts. -/
example : (maxIndex ⟨some " +1_\u0662\n", none, none⟩).result = 12 := by
  decide +kernel

end Settings

end Positional
