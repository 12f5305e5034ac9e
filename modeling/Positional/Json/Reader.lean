import Positional.Double.Reading
import Positional.Json.Basic
import Positional.Json.Quoted

/-!
# Reading JSON

A document is read from left to right, and the first fault ends the reading with its offset.  The
numbers `NaN`, `Infinity` and `-Infinity` are accepted.  A whole number with too many digits to be
read is a fault without an offset, and so is a list or object that is nested too deep.
-/

namespace Positional.Json

inductive ReadFault where
  /-- the text goes wrong at an offset -/
  | malformed (offset : Nat)
  /-- a whole number has too many digits -/
  | unreadableInteger (digits : Nat)
  /-- lists and objects are nested too deep -/
  | tooDeep
deriving DecidableEq

namespace Reader

def nestingLimit : Nat := 965

def isSpace (code : CodePoint) : Bool :=
  [' ', '\t', '\n', '\r'].any fun c => code = .char c

def skipSpace (place : Cursor CodePoint) : Cursor CodePoint :=
  place.skip isSpace

def wordValues : List (LooseText × Json) :=
  [("null", .null), ("true", .bool true), ("false", .bool false), ("NaN", .number .nan),
    ("Infinity", .number (.infinite false)), ("-Infinity", .number (.infinite true))]

def word? (place : Cursor CodePoint) : Option (Json × Cursor CodePoint) :=
  (wordValues.find? fun entry => entry.1.codes.isPrefixOf place.rest).map fun entry =>
    (entry.2, ⟨place.offset + entry.1.codes.length, place.rest.drop entry.1.codes.length⟩)

/-- The digits before a point: a zero alone, or digits that do not start with zero. -/
def wholeDigits : List Char → List Char
  | '0' :: _ => ['0']
  | digits => digits.takeWhile Numeral.isDigit

def fractionPart : List Char → List Char
  | '.' :: c :: rest => if Numeral.isDigit c then '.' :: c :: rest.takeWhile Numeral.isDigit else []
  | _ => []

def signPart : List Char → List Char
  | '+' :: _ => ['+']
  | '-' :: _ => ['-']
  | _ => []

def exponentPart : List Char → List Char
  | e :: rest =>
    let sign := signPart rest
    let digits := (rest.drop sign.length).takeWhile Numeral.isDigit
    if (e = 'e' || e = 'E') && !digits.isEmpty then e :: sign ++ digits else []
  | [] => []

/-- The characters of a number at the front of a text; none if no digit comes first. -/
def numberText? (text : List Char) : Option (List Char) :=
  let sign := match text with
    | '-' :: _ => ['-']
    | _ => []
  let unsigned := text.drop sign.length
  let whole := wholeDigits unsigned
  if whole.isEmpty then none
  else
    let fraction := fractionPart (unsigned.drop whole.length)
    let exponent := exponentPart (unsigned.drop (whole.length + fraction.length))
    some (sign ++ whole ++ fraction ++ exponent)

def numberValue (parts : Double.Parts) : Except ReadFault Json :=
  if !parts.isWhole then .ok (.number parts.toDouble)
  else if parts.whole.length ≤ Numeral.digitLimit then
    .ok (.int (Numeral.signed parts.negative (Numeral.value parts.whole)))
  else .error (.unreadableInteger parts.whole.length)

def numberFront : List CodePoint → List Char
  | .char c :: rest =>
    if Numeral.isDigit c || "+-.eE".toList.contains c then c :: numberFront rest else []
  | _ => []

def readNumber (place : Cursor CodePoint) : Except ReadFault (Json × Cursor CodePoint) :=
  match numberText? (numberFront place.rest) with
  | none => .error (.malformed place.offset)
  | some written =>
    match Double.Parts.read? written with
    | none => .error (.malformed place.offset)
    | some parts => do
      let value ← numberValue parts
      return (value, ⟨place.offset + written.length, place.rest.drop written.length⟩)

def readText (place : Cursor CodePoint) : Except ReadFault (LooseText × Cursor CodePoint) :=
  match Quoted.read place.offset ⟨place.offset + 1, place.rest.drop 1⟩ with
  | .ok (shown, after) => .ok (⟨shown⟩, after)
  | .error offset => .error (.malformed offset)

def readScalar (place : Cursor CodePoint) : Except ReadFault (Json × Cursor CodePoint) :=
  match place.rest with
  | .char '"' :: _ => (readText place).map fun (shown, after) => (.text shown, after)
  | _ =>
    match word? place with
    | some found => .ok found
    | none => readNumber place

/-- Read the name of a member and the colon after it; the place after is that of the value. -/
def readName (place : Cursor CodePoint) : Except ReadFault (LooseText × Cursor CodePoint) :=
  match place.rest with
  | .char '"' :: _ => do
    let (name, after) ← readText place
    let colon := skipSpace after
    match colon.rest with
    | .char ':' :: rest => return (name, skipSpace ⟨colon.offset + 1, rest⟩)
    | _ => throw (.malformed colon.offset)
  | _ => .error (.malformed place.offset)

inductive Following where
  /-- the end of the list or object, with the place after it -/
  | closed (after : Cursor CodePoint)
  /-- a comma, with the place of the next item -/
  | more (place : Cursor CodePoint)

def readFollowing (close : Char) (place : Cursor CodePoint) : Except ReadFault Following :=
  let here := skipSpace place
  match here.rest with
  | code :: rest =>
    let after : Cursor CodePoint := ⟨here.offset + 1, rest⟩
    if code = .char close then .ok (.closed after)
    else if code = .char ',' then .ok (.more (skipSpace after))
    else .error (.malformed here.offset)
  | [] => .error (.malformed here.offset)

mutual

/-- Read a value inside `depth` further levels of nesting.  Each level of recursion takes at least
one character, so the length of the text is fuel enough. -/
def readValue (fuel depth : Nat) (place : Cursor CodePoint) :
    Except ReadFault (Json × Cursor CodePoint) :=
  match fuel with
  | 0 => .error (.malformed place.offset)
  | fuel + 1 =>
    match place.rest with
    | .char '[' :: rest =>
      match depth with
      | 0 => .error .tooDeep
      | depth + 1 =>
        let first := skipSpace ⟨place.offset + 1, rest⟩
        match first.rest with
        | .char ']' :: rest => .ok (.list [], ⟨first.offset + 1, rest⟩)
        | _ => (readItems fuel depth first).map fun (items, after) => (.list items, after)
    | .char '{' :: rest =>
      match depth with
      | 0 => .error .tooDeep
      | depth + 1 =>
        let first := skipSpace ⟨place.offset + 1, rest⟩
        match first.rest with
        | .char '}' :: rest => .ok (.object [], ⟨first.offset + 1, rest⟩)
        | _ =>
          (readMembers fuel depth first).map fun (members, after) => (.ofMembers members, after)
    | _ => readScalar place

def readItems (fuel depth : Nat) (place : Cursor CodePoint) :
    Except ReadFault (List Json × Cursor CodePoint) :=
  match fuel with
  | 0 => .error (.malformed place.offset)
  | fuel + 1 => do
    let (item, after) ← readValue fuel depth place
    match ← readFollowing ']' after with
    | .closed last => return ([item], last)
    | .more next =>
      let (items, last) ← readItems fuel depth next
      return (item :: items, last)

def readMembers (fuel depth : Nat) (place : Cursor CodePoint) :
    Except ReadFault (List (LooseText × Json) × Cursor CodePoint) :=
  match fuel with
  | 0 => .error (.malformed place.offset)
  | fuel + 1 => do
    let (name, valuePlace) ← readName place
    let (value, after) ← readValue fuel depth valuePlace
    match ← readFollowing '}' after with
    | .closed last => return ([(name, value)], last)
    | .more next =>
      let (members, last) ← readMembers fuel depth next
      return ((name, value) :: members, last)

end

end Reader

def read (text : List CodePoint) : Except ReadFault Json := do
  let first := Reader.skipSpace (Cursor.start text)
  let (document, after) ← Reader.readValue (2 * text.length + 2) Reader.nestingLimit first
  let last := Reader.skipSpace after
  if last.rest.isEmpty then return document else throw (.malformed last.offset)

end Positional.Json
