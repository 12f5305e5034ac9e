import Positional.Numeral
import Positional.Text.Quoted

/-!
# Format errors

The ways in which a template, or a template together with its arguments, is rejected.  An error
states its cause and, where known, the offset in the template at which the offending text starts.
-/

namespace Positional

/-- Why the text after an opening brace is no placeholder. -/
inductive Flaw where
  /-- the template ends inside the braces -/
  | unterminated
  /-- something else stands where the first digit should be -/
  | missingIndex (found : Char)
  /-- something else stands where the closing brace should be -/
  | missingClose (found : Char)
  /-- the index is greater than the largest accepted one -/
  | aboveCeiling (ceiling : Int)
  /-- a cause given in words by a caller -/
  | described (message : String)
deriving DecidableEq

def Flaw.message : Flaw → String
  | .unterminated => "Unterminated placeholder"
  | .missingIndex found =>
    "Placeholder must start with a decimal digit, found " ++
      Text.Quoted.quote (String.singleton found)
  | .missingClose found =>
    "Expected '\x7d' after placeholder index, found " ++
      Text.Quoted.quote (String.singleton found)
  | .aboveCeiling ceiling => "Placeholder index exceeds maximum of " ++ Numeral.text ceiling
  | .described message => message

inductive FormatError where
  /-- a rejection given in words by a caller -/
  | general (message : String) (position : Option Int)
  /-- the text between braces is not an index -/
  | malformed (flaw : Flaw) (position : Option Int)
  /-- a closing brace that neither ends a placeholder nor is doubled -/
  | unmatchedClosingBrace (position : Option Int)
  /-- a placeholder refers to an argument that was not given -/
  | indexOutOfRange (index available : Int) (position : Option Int)
deriving DecidableEq

namespace FormatError

/-- The offset in the template at which the offending text starts. -/
def position : FormatError → Option Int
  | general _ position => position
  | malformed _ position => position
  | unmatchedClosingBrace position => position
  | indexOutOfRange _ _ position => position

def message : FormatError → String
  | general message _ => message
  | malformed flaw _ => flaw.message
  | unmatchedClosingBrace _ => "Unmatched closing brace '\x7d'"
  | indexOutOfRange index available _ =>
    "Argument index " ++ Numeral.text index ++ " out of range (" ++ Numeral.text available ++
      " available)"

def text (error : FormatError) : String :=
  match error.position with
  | none => error.message
  | some position => error.message ++ " (at offset " ++ Numeral.text position ++ ")"

def code : FormatError → String
  | general .. => "E_FORMAT"
  | malformed .. => "E_MALFORMED_PLACEHOLDER"
  | unmatchedClosingBrace .. => "E_UNMATCHED_CLOSING_BRACE"
  | indexOutOfRange .. => "E_ARGUMENT_INDEX_OUT_OF_RANGE"

def index : FormatError → Option Int
  | indexOutOfRange index _ _ => some index
  | _ => none

def available : FormatError → Option Int
  | indexOutOfRange _ available _ => some available
  | _ => none

/-- Whether every number in the error's text has few enough digits to be written. -/
def isWritable (error : FormatError) : Bool :=
  error.position.all Numeral.isWritable && error.index.all Numeral.isWritable &&
    error.available.all Numeral.isWritable

def shift (offset : Int) : FormatError → FormatError
  | general message position => general message (position.map (· + offset))
  | malformed flaw position => malformed flaw (position.map (· + offset))
  | unmatchedClosingBrace position => unmatchedClosingBrace (position.map (· + offset))
  | indexOutOfRange index available position =>
    indexOutOfRange index available (position.map (· + offset))

end FormatError

end Positional
