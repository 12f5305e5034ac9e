import Positional.Double.Layout
import Positional.Json.Basic
import Positional.Text.Quoted

/-!
# Printing JSON

The text of a document on one line, without white space between its parts.  Characters of any
script stand for themselves; only what may not stand between quotes is escaped.  The text of a
number with a point or an exponent never looks like that of an integer.
-/

namespace Positional.Json

namespace Printer

def shortLetter? (c : Char) : Option Char :=
  [('\x08', 'b'), ('\t', 't'), ('\n', 'n'), ('\x0c', 'f'), ('\r', 'r')].lookup c

def character (c : Char) : List Char :=
  if c = '"' || c = '\\' then ['\\', c]
  else if c < ' ' then
    match shortLetter? c with
    | some letter => ['\\', letter]
    | none => '\\' :: 'u' :: Text.Quoted.hex 4 c.toNat
  else [c]

/-- A code point between quotes.  A lone half stands for itself. -/
def code : CodePoint → List CodePoint
  | .char c => (character c).map .char
  | .half offset => [.half offset]

def quote (s : LooseText) : LooseText :=
  ⟨.char '"' :: s.codes.flatMap code ++ [.char '"']⟩

/-- A number with a point or an exponent; what is not finite is named. -/
def number : Double → String
  | .nan => "NaN"
  | .infinite negative => if negative then "-Infinity" else "Infinity"
  | .finite negative mantissa exponent => Double.text (.finite negative mantissa exponent)

/-- Texts in a row with commas between them, inside an opening and a closing character. -/
def enclose (opening closing : Char) (texts : List LooseText) : LooseText :=
  ⟨.char opening :: List.intercalate [.char ','] (texts.map LooseText.codes) ++ [.char closing]⟩

end Printer

open Printer

mutual

def print : Json → LooseText
  | null => "null"
  | bool b => .ofString (if b then "true" else "false")
  | int i => Numeral.text i
  | number n => Printer.number n
  | text s => quote s
  | list items => enclose '[' ']' (printItems items)
  | object members => enclose '\x7b' '\x7d' (printMembers members)

def printItems : List Json → List LooseText
  | [] => []
  | item :: rest => item.print :: printItems rest

def printMembers : List (LooseText × Json) → List LooseText
  | [] => []
  | (name, value) :: rest => (quote name ++ (":" : String) ++ value.print) :: printMembers rest

end

end Positional.Json
