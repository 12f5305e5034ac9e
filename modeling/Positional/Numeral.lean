import Positional.Text.Blank
import Positional.Text.DecimalDigit

/-!
# Decimal numerals

Integers of any size and their decimal texts.  Reading and writing stop at a number of digits:
a longer numeral is refused in either direction, with leading zeros counted when reading.
-/

namespace Positional.Numeral

-- Powers are the core library's, also where another instance is in scope.
attribute [local instance (high)] instPowNat

def digitLimit : Nat := 4300

/-- A decimal digit of ASCII, the only digits a template or a literal may use. -/
def isDigit (c : Char) : Bool :=
  '0' ≤ c && c ≤ '9'

def value (digits : List Char) : Nat :=
  Nat.ofDigitChars 10 digits 0

/-- The decimal digits of a number, without leading zeros. -/
def digits (n : Nat) : List Char :=
  (Nat.repr n).toList

def text (i : Int) : String :=
  if i < 0 then "-" ++ Nat.repr i.natAbs else Nat.repr i.natAbs

def isWritable (i : Int) : Bool :=
  i.natAbs < 10 ^ digitLimit

def significant (digits : List Char) : List Char :=
  digits.dropWhile (· = '0')

/-- A sign and the characters after it; a missing sign is positive. -/
def splitSign : List Char → Bool × List Char
  | '+' :: rest => (false, rest)
  | '-' :: rest => (true, rest)
  | rest => (false, rest)

def signed (negative : Bool) (magnitude : Nat) : Int :=
  if negative then -(magnitude : Int) else magnitude

/-- The digit values of a lenient numeral without its sign: digits of any script, with single
underscores between them. -/
def lenientDigits? : List Char → Option (List Nat)
  | [] => none
  | [c] => (Text.digitValue? c).map ([·])
  | c :: '_' :: rest => do return (← Text.digitValue? c) :: (← lenientDigits? rest)
  | c :: rest => do return (← Text.digitValue? c) :: (← lenientDigits? rest)

/-- The number with the given digit values, highest first. -/
def ofDigitValues (values : List Nat) : Nat :=
  values.foldl (fun n digit => 10 * n + digit) 0

/-- Read an integer the lenient way: an optional sign directly before the digits, leading zeros
allowed, digits of any script, underscores between digits.  Too many digits are refused. -/
def lenient? (numeral : List Char) : Option Int := do
  let (negative, magnitude) := splitSign numeral
  let values ← lenientDigits? magnitude
  if values.length ≤ digitLimit then some (signed negative (ofDigitValues values)) else none

/-- A lax numeral after its leading zeros.  Underscores may stand among the leading zeros; where
nothing but zeros comes before a point or the end, the last character is kept. -/
def dropLeadingZeros? (last : Char) : List Char → Option (List Char)
  | [] => some [last]
  | c :: rest =>
    if c = '0' || c = '_' then dropLeadingZeros? c rest
    else if isDigit c || c = '-' then some (c :: rest)
    else if c = '.' then some (last :: c :: rest)
    else none

/-- The text before a point that zeros, at least one, follow to the end; a text without a point is
kept. -/
def dropZeroFraction? (text : List Char) : Option (List Char) :=
  match text.dropWhile (· != '.') with
  | [] => some text
  | _ :: fraction =>
    if !fraction.isEmpty && fraction.all (· = '0') then some (text.takeWhile (· != '.')) else none

def plainDigits? : List Char → Option (List Char)
  | [] => none
  | [c] => if isDigit c then some [c] else none
  | c :: '_' :: rest => if isDigit c then (plainDigits? rest).map (c :: ·) else none
  | c :: rest => if isDigit c then (plainDigits? rest).map (c :: ·) else none

/-- Digits that do not start with a zero, or a zero alone. -/
def isCanonical (digits : List Char) : Bool :=
  digits.head? != some '0' || digits.length = 1

/-- What stands before the digits of a lax numeral and after its leading zeros: a minus sign, which
an underscore may follow. -/
def splitLateSign : List Char → Bool × List Char
  | '-' :: '_' :: rest => (true, rest)
  | '-' :: rest => (true, rest)
  | rest => (false, rest)

/-- A lax numeral without its first sign: whether its leading zeros end in a minus sign, and its
digits. -/
def laxDigits? : List Char → Option (Bool × List Char)
  | [] => none
  | c :: rest => do
    let text ← if c = '0' then dropLeadingZeros? c rest
      else if isDigit c then some (c :: rest) else none
    let (late, magnitude) := splitLateSign (← dropZeroFraction? text)
    let digits ← plainDigits? magnitude
    if isCanonical digits then some (late, digits) else none

/-- Read an integer the lax way of the validation library: white space around it, an optional sign,
leading zeros, single underscores between ASCII digits, and a fraction of zeros.  A minus sign may
also stand after leading zeros, if none stands before them.  A minus sign counts towards the digit
limit, leading zeros do not. -/
def lax? (numeral : List Char) : Option Int := do
  let (early, magnitude) := splitSign (Text.trim Text.isNumeralBlank numeral)
  let (late, digits) ← laxDigits? magnitude
  if early && late then none
  else
    let negative := early || late
    if digits.length + negative.toNat ≤ digitLimit then some (signed negative (value digits))
    else none

@[simp] theorem value_digits (n : Nat) : value (digits n) = n := by
  simp [value, digits, Nat.repr, Nat.ofDigitChars_ten_toDigits]

theorem digits_eq_toDigits (n : Nat) : digits n = Nat.toDigits 10 n := by
  simp [digits, Nat.repr]

theorem value_significant (ds : List Char) : value (significant ds) = value ds := by
  induction ds with
  | nil => rfl
  | cons c rest ih =>
    by_cases h : c = '0'
    · subst h
      simp only [significant, value] at ih ⊢
      rw [List.dropWhile_cons_of_pos (by simp), ih, Nat.ofDigitChars_cons]
      simp
    · rw [significant, List.dropWhile_cons_of_neg (by simpa using h)]

theorem text_ofNat (n : Nat) : text n = Nat.repr n := by
  simp [text]

end Positional.Numeral
