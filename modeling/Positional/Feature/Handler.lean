import Positional.Feature.Outcome
import Positional.Literal
import Positional.Rendering
import Positional.Template.Pieces
import Positional.Value.Text

/-!
# Feature handlers

A handler answers a call with keywords.  Keywords it does not know are ignored.  A rejected
template or argument list becomes a rejected outcome and an entry in the log; any other fault ends
the call.  Arguments may hold lone halves of surrogate pairs; a template that holds one is refused.
-/

namespace Positional

/-- The keywords of a call: the names of all of them, and the values of those that a shipped
handler reads. -/
structure Keywords where
  names : List String
  template : Option Json
  arguments : Value
  typed : Bool

namespace Keywords

def none : Keywords :=
  ⟨[], Option.none, .none, false⟩

def ofTemplate (template : String) : Keywords :=
  ⟨["template"], some (.text template), .none, false⟩

def ofFormat (template : String) (arguments : List Value) (typed : Bool) : Keywords :=
  ⟨["template", "arguments", "typed"], some (.text template), .list arguments, typed⟩

end Keywords

/-- What a handler answers: an outcome, or data that says nothing about success. -/
inductive Answer where
  | outcome (outcome : Outcome)
  | plain (data : Json)

abbrev Handler := Environment → Keywords → Logged (Except Fault Answer)

namespace Handler

/-- Turn a format error into a rejected outcome, with an entry in the log. -/
def reject (subject : String) (error : FormatError) : Logged (Except Fault Answer) := do
  Logged.write .info (subject ++ " rejected: " ++ error.text)
  return .ok (.outcome (.ofFormatError error))

/-- A report is the answer; a format error is rejected; another fault ends the call. -/
def conclude (subject : String) : Except Fault Report → Logged (Except Fault Answer)
  | .ok report => return .ok (.outcome (.completed report))
  | .error (.format error) => reject subject error
  | .error fault => return .error fault

def version : Handler := fun _ _ =>
  return .ok (.outcome (.completed (.version Positional.version)))

/-- The values that a template is formatted with.  What counts as false stands for no arguments. -/
def argumentValues (keywords : Keywords) : Except Fault (List Value) := do
  let values ← if keywords.arguments.isTruthy then keywords.arguments.items else .ok []
  return if keywords.typed then Literal.readAll values else values

def formatValues (env : Environment) (template : String) (values : List Value) :
    Logged (Except Fault Answer) := do
  let rendering ← Positional.format env template none Value.shown (.ofList values)
  conclude "Format" (rendering.outcome.map fun text => .formatted text values.length)

def templateOfData (env : Environment) (data : Json) : Logged (Except Fault Template) := do
  let ceiling ← Reader.ceiling env none
  return ceiling.bind fun _ => Template.ofData data

def formatData (env : Environment) (data : Json) (values : List Value) :
    Logged (Except Fault Answer) := do
  let template ← templateOfData env data
  let outcome := template.bind fun template =>
    (template.render Value.shown (.ofList values)).outcome
  match outcome with
  | .ok _ => Logged.write .debug (formattedMessage (Template.pieceCount data) values.length)
  | .error _ => pure ()
  conclude "Format" (outcome.map fun text => .formatted text values.length)

def format : Handler := fun env keywords =>
  match keywords.template with
  | none => return .error (.missingKeyword "handle_format" "template")
  | some template =>
    match argumentValues keywords with
    | .error fault => return .error fault
    | .ok values =>
      match template with
      | .text text =>
        match text.encode with
        | .ok text => formatValues env text values
        | .error fault => return .error fault
      | data => formatData env data values

def parseText (env : Environment) (text : String) : Logged (Except Fault Answer) := do
  let parsed ← Template.parse env text none
  conclude "Parse" (parsed.map Report.parsed)

def parseData (env : Environment) (data : Json) : Logged (Except Fault Answer) := do
  let parsed ← templateOfData env data
  match parsed with
  | .ok template => Logged.write .debug template.parsedMessage
  | .error _ => pure ()
  conclude "Parse" (parsed.map Report.parsed)

def parse : Handler := fun env keywords =>
  match keywords.template with
  | none => return .error (.missingKeyword "handle_parse" "template")
  | some (.text text) =>
    match text.encode with
    | .ok text => parseText env text
    | .error fault => return .error fault
  | some data => parseData env data

def echo (text : String) : Handler := fun _ keywords =>
  return .ok (.outcome (.completed (.echo text (keywords.names.mergeSort (· ≤ ·)))))

end Handler

end Positional
