import Positional.Template.Reader

/-!
# Parsed templates

A parsed template is a list of segments.  It tells which arguments it refers to and how many it
needs, and it has a spelling that parses back to it when its literals are neither empty nor
adjacent.
-/

namespace Positional

/-- A template that was parsed, or put together from segments. -/
structure Template where
  segments : List Segment
deriving DecidableEq

namespace Template

def placeholders (template : Template) : List Segment :=
  template.segments.filter Segment.isPlaceholder

/-- The distinct indices referred to, in order of first occurrence. -/
def indices (template : Template) : List Int :=
  (template.segments.filterMap Segment.index?).eraseDups

/-- The least number of arguments with which no index is out of range. -/
def required (template : Template) : Int :=
  match template.indices with
  | [] => 0
  | index :: rest => rest.foldl max index + 1

def spelling (template : Template) : String :=
  String.join (template.segments.map Segment.spelling)

def isWritable (template : Template) : Bool :=
  template.segments.all Segment.isWritable

def write (template : Template) : Except Fault String :=
  if template.isWritable then .ok template.spelling else .error .unwritableInteger

/-- Templates are the same if their segments are, positions apart. -/
def same (a b : Template) : Bool :=
  a.segments.map Segment.erasePosition = b.segments.map Segment.erasePosition

def parsedMessage (template : Template) : String :=
  "Parsed template: " ++ Nat.repr template.segments.length ++ " segments, " ++
    Nat.repr template.placeholders.length ++ " placeholders"

/-- Parse a whole template text.  Without a given largest index, the environment's is used. -/
def parse (env : Environment) (text : String) (maxIndex : Option Int) :
    Logged (Except Fault Template) := do
  let listing ← (Reader.fresh text maxIndex).drain env
  match listing.fault with
  | some fault => return .error fault
  | none =>
    let template : Template := ⟨listing.segments⟩
    Logged.write .debug template.parsedMessage
    return .ok template

theorem same_refl (template : Template) : template.same template = true := by
  simp [same]

theorem same_comm (a b : Template) : a.same b = b.same a := by
  simp [same, eq_comm]

end Template

end Positional
