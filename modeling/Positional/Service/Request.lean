import Positional.Json.Reader

/-!
# Requests

The body of a request is a JSON object.  Its fields are checked one by one, and all problems are
reported together, each with its place in the request and with what was found there.
-/

namespace Positional.Service

-- Powers are the core library's, also where another instance is in scope.
attribute [local instance (high)] instPowNat

inductive Complaint where
  | invalidJson
  | missing
  | notText
  /-- a text with a lone half of a surrogate pair -/
  | notUnicode
  | notList
  | unreadableBool
  | notBool
  | notObject
deriving DecidableEq

def Complaint.name : Complaint → String
  | .invalidJson => "json_invalid"
  | .missing => "missing"
  | .notText => "string_type"
  | .notUnicode => "string_unicode"
  | .notList => "list_type"
  | .unreadableBool => "bool_parsing"
  | .notBool => "bool_type"
  | .notObject => "model_attributes_type"

/-- A complaint in words, as the validation library has them. -/
def Complaint.message : Complaint → String
  | .invalidJson => "JSON decode error"
  | .missing => "Field required"
  | .notText => "Input should be a valid string"
  | .notUnicode => "Input should be a valid string, unable to parse raw data as a unicode string"
  | .notList => "Input should be a valid list"
  | .unreadableBool => "Input should be a valid boolean, unable to interpret input"
  | .notBool => "Input should be a valid boolean"
  | .notObject => "Input should be a valid dictionary or object to extract fields from"

structure Problem where
  complaint : Complaint
  place : List Json
  found : Json

namespace Problem

def ofBody (complaint : Complaint) (found : Json) : Problem :=
  ⟨complaint, [.text "body"], found⟩

def ofField (name : String) (complaint : Complaint) (found : Json) : Problem :=
  ⟨complaint, [.text "body", .text name], found⟩

def ofOffset (offset : Nat) : Problem :=
  ⟨.invalidJson, [.text "body", .int offset], .object []⟩

def data (problem : Problem) : Json :=
  .object [("type", .text problem.complaint.name), ("loc", .list problem.place),
    ("msg", .text problem.complaint.message), ("input", problem.found)]

end Problem

inductive Refusal where
  /-- it is no text, or holds a number that cannot be read, or is nested too deep -/
  | unreadable
  /-- its problems can be named -/
  | invalid (problems : List Problem)

structure FormatRequest where
  template : String
  arguments : List Json
  typed : Option Bool

abbrev Checked (α : Type) := Except Problem α

def checkTemplate (body : Json) : Checked String :=
  match body.member? "template" with
  | some (.text s) =>
    match s.toString? with
    | some template => .ok template
    | none => .error (.ofField "template" .notUnicode (.text s))
  | some other => .error (.ofField "template" .notText other)
  | none => .error (.ofField "template" .missing body)

/-- A field that is a list if it is there, and empty if it is not. -/
def checkArguments (body : Json) : Checked (List Json) :=
  match body.member? "arguments" with
  | some (.list items) => .ok items
  | some other => .error (.ofField "arguments" .notList other)
  | none => .ok []

def boolWords : List (String × Bool) :=
  [("0", false), ("off", false), ("f", false), ("false", false), ("n", false), ("no", false),
    ("1", true), ("on", true), ("t", true), ("true", true), ("y", true), ("yes", true)]

def isWord (i : Int) : Bool :=
  -2 ^ (63 : Nat) ≤ i && i < 2 ^ (63 : Nat)

/-- The truth value of an integer: zero and one stand for false and true.  Other integers of the
size of a machine word cannot be read, larger ones are of the wrong type. -/
def boolOfInt (i : Int) : Except Complaint Bool :=
  if i = 0 then .ok false
  else if i = 1 then .ok true
  else if isWord i then .error .unreadableBool
  else .error .notBool

/-- The truth value of a number with a point or an exponent: it has to be whole, and the least
integer of the size of a machine word is of the wrong type. -/
def boolOfNumber (number : Double) : Except Complaint Bool :=
  match number.toInt? with
  | some i => if i = -2 ^ (63 : Nat) then .error .notBool else boolOfInt i
  | none => .error .notBool

def boolOf : Json → Except Complaint Bool
  | .bool b => .ok b
  | .int i => boolOfInt i
  | .number number => boolOfNumber number
  | .text s =>
    match s.toString?.bind fun word => boolWords.lookup word.toLower with
    | some b => .ok b
    | none => .error .unreadableBool
  | _ => .error .notBool

/-- A field that stands for a truth value, for none if it is null, and for false if it is not
there. -/
def checkTyped (body : Json) : Checked (Option Bool) :=
  match body.member? "typed" with
  | none => .ok (some false)
  | some .null => .ok none
  | some value =>
    match boolOf value with
    | .ok b => .ok (some b)
    | .error complaint => .error (.ofField "typed" complaint value)

def problems {α : Type} : Checked α → List Problem
  | .ok _ => []
  | .error problem => [problem]

def readBody (bytes : List UInt8) : Except Refusal Json :=
  if bytes.isEmpty then .error (.invalid [.ofBody .missing .null])
  else
    match Text.Encoding.decodeBody? bytes with
    | none => .error .unreadable
    | some text =>
      match Json.read text with
      | .ok document => .ok document
      | .error (.malformed offset) => .error (.invalid [.ofOffset offset])
      | .error (.unreadableInteger _) => .error .unreadable
      | .error .tooDeep => .error .unreadable

def checkObject : Json → Except Refusal Json
  | .object members => .ok (.object members)
  | other => .error (.invalid [.ofBody .notObject other])

def checkFormat (body : Json) : Except Refusal FormatRequest :=
  match checkTemplate body, checkArguments body, checkTyped body with
  | .ok template, .ok arguments, .ok typed => .ok ⟨template, arguments, typed⟩
  | template, arguments, typed =>
    .error (.invalid (problems template ++ problems arguments ++ problems typed))

def checkParse (body : Json) : Except Refusal String :=
  match checkTemplate body with
  | .ok template => .ok template
  | .error problem => .error (.invalid [problem])

def readFormat (bytes : List UInt8) : Except Refusal FormatRequest := do
  checkFormat (← checkObject (← readBody bytes))

def readParse (bytes : List UInt8) : Except Refusal String := do
  checkParse (← checkObject (← readBody bytes))

end Positional.Service
