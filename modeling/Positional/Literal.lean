import Positional.Double.Reading
import Positional.Json.Quoted
import Positional.Value.Basic

/-!
# Typed arguments

An argument given as text may be read as a literal: a number, `true`, `false`, `null`, or a text in
double quotes.  White space around a literal is dropped.  A text that is no literal is kept as it
is, white space included.
-/

namespace Positional.Literal

/-- Whether a text between quotes is closed by its last character: no quote before it closes it, no
line break stands in it, and the backslashes before the last quote come in pairs.  `escaped` says
whether an odd number of backslashes stands directly before the text. -/
def closesAtEnd (escaped : Bool) : List CodePoint → Bool
  | [] => false
  | [.char '"'] => !escaped
  | .char '\\' :: rest => closesAtEnd (!escaped) rest
  | code :: rest =>
    code != .char '\n' && (code != .char '"' || escaped) && closesAtEnd false rest

/-- The text of a quoted literal.  Escapes follow JSON; where the literal is not valid JSON, what
stands between the quotes is taken as it is. -/
def quotedText (core : List CodePoint) : LooseText :=
  ⟨(Json.Quoted.decode? core).getD ((core.drop 1).dropLast)⟩

/-- The value of a number.  A whole number with too many digits to be read stays text. -/
def numberValue (core : List Char) (parts : Double.Parts) : Value :=
  if parts.isWhole then
    if parts.whole.length ≤ Numeral.digitLimit then
      .int (Numeral.signed parts.negative (Numeral.value parts.whole))
    else .text (String.ofList core)
  else .float parts.toDouble

/-- The value of a word or a number, none if the text is neither. -/
def plainValue? (core : List Char) : Option Value :=
  if core = ['t', 'r', 'u', 'e'] then some (.bool true)
  else if core = ['f', 'a', 'l', 's', 'e'] then some (.bool false)
  else if core = ['n', 'u', 'l', 'l'] then some .none
  else (Double.Parts.read? core).map (numberValue core)

/-- The value of a literal without white space around it, none if the text is no literal.  A lone
half may stand only between quotes. -/
def value? (core : List CodePoint) : Option Value :=
  match core with
  | .char '"' :: rest => if closesAtEnd false rest then some (.text (quotedText core)) else none
  | _ => (CodePoint.chars? core).bind plainValue?

def isPadding (code : CodePoint) : Bool :=
  code.char?.any Text.isPadding

def read (text : LooseText) : Value :=
  (value? (Text.trim isPadding text.codes)).getD (.text text)

/-- Read every argument that is a text; other values are kept. -/
def readAll (values : List Value) : List Value :=
  values.map fun value =>
    match value with
    | .text s => read s
    | other => other

theorem readAll_length (values : List Value) : (readAll values).length = values.length := by
  simp [readAll]

end Positional.Literal
