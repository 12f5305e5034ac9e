import Positional.Diagnostic
import Positional.Template.Basic

/-!
# Outcomes of features

A feature answers with a report, or says why it rejects what it was given.
-/

namespace Positional

def version : String := "0.3.0"

inductive Report where
  /-- the version of the program -/
  | version (text : String)
  /-- a formatted text, and how many arguments there were -/
  | formatted (text : LooseText) (arguments : Nat)
  /-- a parsed template -/
  | parsed (template : Template)
  /-- a fixed text, and the names of the keywords that were given -/
  | echo (text : String) (given : List String)
deriving DecidableEq

namespace Report

def segmentData : Segment → Json
  | .literal text => .object [("kind", .text "literal"), ("text", .text text)]
  | .placeholder index position =>
    .object [("kind", .text "placeholder"), ("index", .int index),
      ("position", (position.map Json.int).getD .null)]

def data : Report → Json
  | version text => .object [("version", .text text)]
  | formatted text arguments =>
    .object [("result", .text text), ("arguments", .int arguments)]
  | parsed template =>
    .object [("segments", .list (template.segments.map segmentData)),
      ("referenced_indices", .list (template.indices.map Json.int)),
      ("required_arguments", .int template.required),
      ("syntax", .text template.spelling)]
  | echo text given =>
    .object [("text", .text text), ("given", .list (given.map Json.ofString))]

end Report

/-- The outcome of an operation that can reject what it is given. -/
inductive Outcome where
  | completed (report : Report)
  | rejected (error : String) (diagnostics : List Diagnostic)
deriving DecidableEq

namespace Outcome

def ofFormatError (error : FormatError) : Outcome :=
  rejected error.text [error.diagnostic]

def isCompleted : Outcome → Bool
  | completed _ => true
  | rejected .. => false

def data? : Outcome → Option Json
  | completed report => some report.data
  | rejected .. => none

def error? : Outcome → Option String
  | completed _ => none
  | rejected error _ => some error

def diagnostics : Outcome → List Diagnostic
  | completed _ => []
  | rejected _ diagnostics => diagnostics

end Outcome

end Positional
