import Positional.Fault

/-!
# Segments

A template is a sequence of segments: literal text, and placeholders that refer to arguments by
position.  Each segment has a spelling, the template text that stands for it.  Braces in literal
text are spelled doubled.
-/

namespace Positional

def escapeChar (c : Char) : List Char :=
  if c = '{' then ['{', '{'] else if c = '}' then ['}', '}'] else [c]

/-- Double every brace, so that the text as a template stands for itself. -/
def escape (text : String) : String :=
  String.ofList (text.toList.flatMap escapeChar)

inductive Segment where
  /-- text that is kept as it is, braces not doubled -/
  | literal (text : String)
  /-- a reference to an argument, with the offset in the template where it stands, if known -/
  | placeholder (index : Int) (position : Option Int)
deriving DecidableEq

namespace Segment

def spelling : Segment → String
  | literal text => escape text
  | placeholder index _ => "\x7b" ++ Numeral.text index ++ "\x7d"

/-- The text that shows a segment: literal text as it is, a placeholder by its spelling. -/
def display : Segment → String
  | literal text => text
  | placeholder index position => (placeholder index position).spelling

def isPlaceholder : Segment → Bool
  | literal _ => false
  | placeholder .. => true

def index? : Segment → Option Int
  | literal _ => none
  | placeholder index _ => some index

def erasePosition : Segment → Segment
  | literal text => literal text
  | placeholder index _ => placeholder index none

def isWritable (segment : Segment) : Bool :=
  segment.index?.all Numeral.isWritable

def write (segment : Segment) : Except Fault String :=
  if segment.isWritable then .ok segment.spelling else .error .unwritableInteger

def writeDisplay (segment : Segment) : Except Fault String :=
  if segment.isWritable then .ok segment.display else .error .unwritableInteger

@[simp] theorem erasePosition_erasePosition (segment : Segment) :
    segment.erasePosition.erasePosition = segment.erasePosition := by
  cases segment <;> rfl

@[simp] theorem spelling_erasePosition (segment : Segment) :
    segment.erasePosition.spelling = segment.spelling := by
  cases segment <;> rfl

end Segment

@[simp] theorem escape_toList (text : String) :
    (escape text).toList = text.toList.flatMap escapeChar := by
  simp [escape]

theorem escape_append (s t : String) : escape (s ++ t) = escape s ++ escape t := by
  simp [escape]

end Positional
