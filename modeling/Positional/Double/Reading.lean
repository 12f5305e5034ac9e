import Positional.Double.Basic
import Positional.Fault

/-!
# Decimal texts of doubles

The parts of a number written with a point or an exponent, and the double nearest to it.  A lenient
reading also takes digits of any script, underscores between digits, white space around the number,
and the names of the infinities and of no number in any case.
-/

namespace Positional.Double

/-- A number as it is written: sign, digits before the point, digits after it if there is a point,
and sign and digits of the exponent if there is one. -/
structure Parts where
  negative : Bool
  whole : List Char
  fraction : Option (List Char)
  exponent : Option (Bool × List Char)
deriving DecidableEq

namespace Parts

/-- Digits after a point, with the characters after them; none if no point comes next. -/
def readFraction : List Char → Option (List Char) × List Char
  | '.' :: rest => (some (rest.takeWhile Numeral.isDigit), rest.dropWhile Numeral.isDigit)
  | rest => (none, rest)

/-- An exponent that reaches to the end of the text.  The outer option is none where the text goes
on with anything else. -/
def readExponent? : List Char → Option (Option (Bool × List Char))
  | [] => some none
  | c :: rest =>
    let (negative, digits) := Numeral.splitSign rest
    if (c = 'e' || c = 'E') && !digits.isEmpty && digits.all Numeral.isDigit then
      some (some (negative, digits))
    else none

/-- Read a whole text as a number: an optional sign, digits on at least one side of an optional
point, and an optional exponent. -/
def read? (text : List Char) : Option Parts := do
  let (negative, unsigned) := Numeral.splitSign text
  let whole := unsigned.takeWhile Numeral.isDigit
  let (fraction, rest) := readFraction (unsigned.dropWhile Numeral.isDigit)
  let exponent ← readExponent? rest
  if whole.isEmpty && (fraction.getD []).isEmpty then none
  else some ⟨negative, whole, fraction, exponent⟩

/-- Whether the number is written with digits and a sign only. -/
def isWhole (parts : Parts) : Bool :=
  parts.fraction.isNone && parts.exponent.isNone

def power (parts : Parts) : Int :=
  match parts.exponent with
  | none => 0
  | some (negative, digits) => Numeral.signed negative (Numeral.value digits)

def toDouble (parts : Parts) : Double :=
  let fraction := parts.fraction.getD []
  ofDecimal parts.negative (Numeral.value (parts.whole ++ fraction))
    (parts.power - fraction.length)

end Parts

/-- The text without underscores, none if an underscore does not stand between two digits.
`afterDigit` says whether a digit stands directly before the text. -/
def dropUnderscores? (afterDigit : Bool) : List Char → Option (List Char)
  | [] => some []
  | '_' :: c :: rest =>
    if afterDigit && Numeral.isDigit c then (dropUnderscores? true rest).map (c :: ·) else none
  | ['_'] => none
  | c :: rest => (dropUnderscores? (Numeral.isDigit c) rest).map (c :: ·)

def infinityNames : List (List Char) :=
  ["inf".toList, "infinity".toList]

/-- Read a decimal text without white space and underscores, or the name of an infinity or of no
number. -/
def readPlain? (text : List Char) : Option Double :=
  let (negative, unsigned) := Numeral.splitSign text
  let name := unsigned.map Char.toLower
  if infinityNames.contains name then some (.infinite negative)
  else if name = "nan".toList then some .nan
  else (Parts.read? text).map Parts.toDouble

def lenient? (text : List Char) : Option Double :=
  (dropUnderscores? false (Text.trim Text.isNumeralBlank (text.map Text.asciiDigit))).bind
    readPlain?

def read (text : String) : Except Fault Double :=
  match lenient? text.toList with
  | some number => .ok number
  | none => .error (.notDecimal text)

end Positional.Double
