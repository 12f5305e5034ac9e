import Positional.Text.Loose
import Positional.Text.Printable

/-!
# Quoted text

A text in quotes, on one line, from which the text can be read back.  Single quotes are used unless
the text holds a single quote and no double quote.  The backslash and the quote in use follow a
backslash, a character that is not printable is written by its code point, and so is half of a
surrogate pair that stands alone.
-/

namespace Positional.Text.Quoted

/-- `width` hexadecimal digits of a number, highest first. -/
def hex : Nat → Nat → List Char
  | 0, _ => []
  | width + 1, n => hex width (n / 16) ++ [Nat.digitChar (n % 16)]

@[simp] theorem hex_length (width n : Nat) : (hex width n).length = width := by
  induction width generalizing n with
  | zero => rfl
  | succ width ih => simp [hex, ih]

/-- The code point of a character that is not printable, in two, four or eight digits. -/
def codePoint (c : Char) : List Char :=
  if c.toNat < 0x100 then '\\' :: 'x' :: hex 2 c.toNat
  else if c.toNat < 0x10000 then '\\' :: 'u' :: hex 4 c.toNat
  else '\\' :: 'U' :: hex 8 c.toNat

def escapeChar (quote c : Char) : List Char :=
  if c = quote || c = '\\' then ['\\', c]
  else if c = '\n' then ['\\', 'n']
  else if c = '\r' then ['\\', 'r']
  else if c = '\t' then ['\\', 't']
  else if isPrintable c then [c]
  else codePoint c

def quoteFor (text : List Char) : Char :=
  if text.contains '\'' && !text.contains '"' then '"' else '\''

def encode (text : List Char) : List Char :=
  quoteFor text :: text.flatMap (escapeChar (quoteFor text)) ++ [quoteFor text]

def quote (text : String) : String :=
  String.ofList (encode text.toList)

def escapeCode (quote : Char) : CodePoint → List Char
  | .char c => escapeChar quote c
  | .half offset => '\\' :: 'u' :: hex 4 (CodePoint.half offset).toNat

def encodeLoose (text : List CodePoint) : List Char :=
  let quote := quoteFor (text.filterMap CodePoint.char?)
  quote :: text.flatMap (escapeCode quote) ++ [quote]

def quoteLoose (text : LooseText) : String :=
  String.ofList (encodeLoose text.codes)

theorem quoteLoose_ofString (s : String) : quoteLoose (.ofString s) = quote s := by
  have hchars : (s.toList.map CodePoint.char).filterMap CodePoint.char? = s.toList := by
    rw [List.filterMap_map]
    exact List.filterMap_some
  simp only [quoteLoose, encodeLoose, LooseText.codes_ofString, hchars, quote, encode,
    List.flatMap_map, escapeCode]

end Positional.Text.Quoted
