import Positional.FormatError
import Positional.Text.Utf8

/-!
# Faults

Everything that can end an operation before it has a result: format errors, numerals beyond the
digit limit, and failures of the code and data that callers supply.  A fault has a kind and a
message, both of which reach the user.
-/

namespace Positional

/-- The kinds of failure that callers' code raises on its own. -/
inductive FailureKind where
  | runtime
  | value
  | type
deriving DecidableEq

def FailureKind.name : FailureKind → String
  | .runtime => "RuntimeError"
  | .value => "ValueError"
  | .type => "TypeError"

inductive SequenceKind where
  | list
  | tuple
  | string
deriving DecidableEq

def SequenceKind.name : SequenceKind → String
  | .list => "list"
  | .tuple => "tuple"
  | .string => "string"

/-- What ended an operation. -/
inductive Fault where
  /-- a template, or a template with its arguments, was rejected -/
  | format (error : FormatError)
  /-- an integer has too many digits to be written -/
  | unwritableInteger
  /-- a numeral has too many digits to be read -/
  | unreadableInteger (digits : Nat)
  /-- an infinite number has no whole part -/
  | infiniteNumber
  /-- no number has no whole part -/
  | noNumber
  /-- a text is no decimal number -/
  | notDecimal (text : String)
  /-- data with a number that JSON has no form for -/
  | notCompliant
  /-- an index counted from the end goes past the first item -/
  | noSuchItem (sequence : SequenceKind)
  /-- an index counted from the end is larger than any sequence -/
  | indexTooLarge
  /-- bytes that should be text are not -/
  | encoding (fault : Text.Utf8.Fault)
  /-- a text with lone halves of surrogate pairs has no bytes -/
  | unencodable (run : HalfRun)
  /-- a failure raised by a caller's code -/
  | raised (kind : FailureKind) (message : String)
  /-- a handler was called without a keyword it needs -/
  | missingKeyword (handler keyword : String)
  /-- a template of the named type is no text -/
  | noLength (type : String)
  /-- a handler was given arguments that are no sequence -/
  | notIterable (type : String)
  /-- a value of the named type lacks an attribute -/
  | noAttribute (type name : String)
  /-- an item of the named type stands where a piece of text should -/
  | notPiece (position : Nat) (type : String)
  /-- an object has no member for an index -/
  | missingIndex (index : Nat)
  /-- a handler's report lacks a field -/
  | missingField (name : String)
deriving DecidableEq

namespace Fault

def digitLimitMessage (detail : String) : String :=
  "Exceeds the limit (" ++ Nat.repr Numeral.digitLimit ++
    " digits) for integer string conversion" ++ detail ++
    "; use sys.set_int_max_str_digits() to increase the limit"

def causeMessage : Text.Utf8.Cause → String
  | .startByte => "invalid start byte"
  | .continuationByte => "invalid continuation byte"
  | .truncated => "unexpected end of data"

def encodingMessage (fault : Text.Utf8.Fault) : String :=
  let place :=
    if fault.length = 1 then
      "byte 0x" ++ String.ofList (Text.Quoted.hex 2 fault.byte.toNat) ++ " in position " ++
        Nat.repr fault.offset
    else
      "bytes in position " ++ Nat.repr fault.offset ++ "-" ++
        Nat.repr (fault.offset + fault.length - 1)
  "'utf-8' codec can't decode " ++ place ++ ": " ++ causeMessage fault.cause

def unencodableMessage (run : HalfRun) : String :=
  let place :=
    match run.halves with
    | [half] =>
      "character '\\u" ++ String.ofList (Text.Quoted.hex 4 half.toNat) ++ "' in position " ++
        Nat.repr run.position
    | halves =>
      "characters in position " ++ Nat.repr run.position ++ "-" ++
        Nat.repr (run.position + halves.length - 1)
  "'utf-8' codec can't encode " ++ place ++ ": surrogates not allowed"

def message : Fault → String
  | format error => error.text
  | unwritableInteger => digitLimitMessage ""
  | unreadableInteger digits => digitLimitMessage (": value has " ++ Nat.repr digits ++ " digits")
  | infiniteNumber => "cannot convert float infinity to integer"
  | noNumber => "cannot convert float NaN to integer"
  | notDecimal text => "could not convert string to float: " ++ Text.Quoted.quote text
  | notCompliant => "Out of range float values are not JSON compliant"
  | noSuchItem sequence => sequence.name ++ " index out of range"
  | indexTooLarge => "cannot fit 'int' into an index-sized integer"
  | encoding fault => encodingMessage fault
  | unencodable run => unencodableMessage run
  | raised _ message => message
  | missingKeyword handler keyword =>
    handler ++ "() missing 1 required positional argument: '" ++ keyword ++ "'"
  | noLength type => "object of type '" ++ type ++ "' has no len()"
  | notIterable type => "'" ++ type ++ "' object is not iterable"
  | noAttribute type name => "'" ++ type ++ "' object has no attribute '" ++ name ++ "'"
  | notPiece position type =>
    "sequence item " ++ Nat.repr position ++ ": expected str instance, " ++ type ++ " found"
  | missingIndex index => Nat.repr index
  | missingField name => "'" ++ name ++ "'"

def kindName : Fault → String
  | format (.general ..) => "FormatError"
  | format (.malformed ..) => "MalformedPlaceholder"
  | format (.unmatchedClosingBrace ..) => "UnmatchedClosingBrace"
  | format (.indexOutOfRange ..) => "ArgumentIndexOutOfRange"
  | unwritableInteger => "ValueError"
  | unreadableInteger _ => "ValueError"
  | infiniteNumber => "OverflowError"
  | noNumber => "ValueError"
  | notDecimal _ => "ValueError"
  | notCompliant => "ValueError"
  | noSuchItem _ => "IndexError"
  | indexTooLarge => "IndexError"
  | encoding _ => "UnicodeDecodeError"
  | unencodable _ => "UnicodeEncodeError"
  | raised kind _ => kind.name
  | missingKeyword .. => "TypeError"
  | noLength _ => "TypeError"
  | notIterable _ => "TypeError"
  | noAttribute .. => "AttributeError"
  | notPiece .. => "TypeError"
  | missingIndex _ => "KeyError"
  | missingField _ => "KeyError"

/-- The fault that reports a format error: the error itself, unless a number in its text has too
many digits to be written. -/
def ofFormatError (error : FormatError) : Fault :=
  if error.isWritable then format error else unwritableInteger

end Fault

/-- The decimal text of an integer, refused beyond the digit limit. -/
def Numeral.write (i : Int) : Except Fault String :=
  if Numeral.isWritable i then .ok (Numeral.text i) else .error .unwritableInteger

/-- The number that ASCII digits denote, refused beyond the digit limit with leading zeros
counted. -/
def Numeral.read (digits : List Char) : Except Fault Nat :=
  if digits.length ≤ Numeral.digitLimit then .ok (Numeral.value digits)
  else .error (.unreadableInteger digits.length)

/-- A text as characters, refused where it has no bytes. -/
def LooseText.encode (text : LooseText) : Except Fault String :=
  match text.toString? with
  | some s => .ok s
  | none => .error (.unencodable text.firstRun)

theorem LooseText.encode_eq_ok_iff {text : LooseText} {s : String} :
    text.encode = .ok s ↔ text = .ofString s := by
  rw [← LooseText.toString?_eq_some_iff, LooseText.encode]
  cases text.toString? with
  | none => simp
  | some t => simp

@[simp] theorem LooseText.encode_ofString (s : String) : (LooseText.ofString s).encode = .ok s :=
  LooseText.encode_eq_ok_iff.2 rfl

end Positional
