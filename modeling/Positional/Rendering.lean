import Positional.Template.Basic

/-!
# Rendering

Segments are rendered from left to right: literal text is kept, a placeholder gives the text of the
argument it refers to.  A renderer turns an argument into text and may fail; it is called at most
once for each index.  The calls are recorded in order, the failing one included.

A list of segments and a reader are rendered by the same step, so a reader that stops at a fault
has gone exactly as far as the fault.
-/

namespace Positional

-- Powers are the core library's, also where another instance is in scope.
attribute [local instance (high)] instPowNat

variable {α : Type}

/-- A text for an argument, or the fault that keeps it from having one. -/
abbrev Renderer (α : Type) := α → Except Fault LooseText

/-- The arguments of a call, and the kind of sequence they came in. -/
structure Arguments (α : Type) where
  kind : SequenceKind
  items : List α

namespace Arguments

def ofList (items : List α) : Arguments α :=
  ⟨.list, items⟩

def size (arguments : Arguments α) : Nat :=
  arguments.items.length

/-- The argument at an index; a negative index counts from the end. -/
def get? (arguments : Arguments α) (index : Int) : Option α :=
  if 0 ≤ index then arguments.items[index.toNat]?
  else if -index ≤ arguments.size then arguments.items[arguments.size - (-index).toNat]?
  else none

def leastIndex : Int := -2 ^ (63 : Nat)

def absence (arguments : Arguments α) (index : Int) : Fault :=
  if index < leastIndex then .indexTooLarge else .noSuchItem arguments.kind

end Arguments

/-- A call of the renderer: the index of the argument, and what the renderer answered. -/
structure Call where
  index : Int
  answer : Except Fault LooseText

structure Progress where
  text : LooseText
  calls : List Call

namespace Progress

def start : Progress :=
  ⟨"", []⟩

def recalled? (progress : Progress) (index : Int) : Option LooseText :=
  progress.calls.findSome? fun call =>
    if call.index = index then call.answer.toOption else none

def append (progress : Progress) (text : LooseText) : Progress :=
  { progress with text := progress.text ++ text }

def record (progress : Progress) (index : Int) (answer : Except Fault LooseText) : Progress :=
  { progress with calls := progress.calls ++ [⟨index, answer⟩] }

def renderFresh (render : Renderer α) (arguments : Arguments α) (index : Int)
    (progress : Progress) : Progress × Option Fault :=
  match arguments.get? index with
  | none => (progress, some (arguments.absence index))
  | some argument =>
    match render argument with
    | .ok text => ((progress.record index (.ok text)).append text, none)
    | .error fault => (progress.record index (.error fault), some fault)

/-- Render one segment: how far the rendering has come, and the fault if the segment has one. -/
def renderSegment (render : Renderer α) (arguments : Arguments α) (progress : Progress) :
    Segment → Progress × Option Fault
  | .literal text => (progress.append text, none)
  | .placeholder index position =>
    if (arguments.size : Int) ≤ index then
      (progress, some (.ofFormatError (.indexOutOfRange index arguments.size position)))
    else
      match progress.recalled? index with
      | some text => (progress.append text, none)
      | none => renderFresh render arguments index progress

end Progress

structure Rendering where
  outcome : Except Fault LooseText
  calls : List Call

namespace Rendering

def completed (progress : Progress) : Rendering :=
  ⟨.ok progress.text, progress.calls⟩

def stopped (progress : Progress) (fault : Fault) : Rendering :=
  ⟨.error fault, progress.calls⟩

def renderedTexts (rendering : Rendering) : List LooseText :=
  rendering.calls.filterMap fun call => call.answer.toOption

def continueList (render : Renderer α) (arguments : Arguments α) (progress : Progress) :
    List Segment → Rendering
  | [] => completed progress
  | segment :: rest =>
    match progress.renderSegment render arguments segment with
    | (further, none) => continueList render arguments further rest
    | (further, some fault) => stopped further fault

def ofSegments (render : Renderer α) (arguments : Arguments α) (segments : List Segment) :
    Rendering :=
  continueList render arguments .start segments

/-- Pull and render the segments that are left.  Where rendering stops, the reader that remains
stands after the segment at fault. -/
def continueCursor (render : Renderer α) (arguments : Arguments α) (ceiling : Int)
    (progress : Progress) (cursor : Cursor Char) : Rendering × Reader :=
  match _h : Template.pull ceiling cursor with
  | .segment segment next =>
    match progress.renderSegment render arguments segment with
    | (further, none) => continueCursor render arguments ceiling further next
    | (further, some fault) => (stopped further fault, .reading ceiling next)
  | .fault fault => (stopped progress fault, .closed)
  | .done => (completed progress, .closed)
termination_by cursor.rest.length
decreasing_by exact (Template.pull_next _h).1

def ofReader (env : Environment) (render : Renderer α) (arguments : Arguments α)
    (reader : Reader) : Logged (Rendering × Reader) := do
  match ← reader.settle env with
  | .ok (.reading ceiling cursor) =>
    return continueCursor render arguments ceiling .start cursor
  | .ok other => return (completed .start, other)
  | .error fault => return (stopped .start fault, .closed)

end Rendering

def Template.render (template : Template) (render : Renderer α) (arguments : Arguments α) :
    Rendering :=
  Rendering.ofSegments render arguments template.segments

def formattedMessage (length arguments : Nat) : String :=
  "Formatted template of " ++ Nat.repr length ++ " chars with " ++ Nat.repr arguments ++
    " arguments"

/-- Substitute arguments into a template text in one pass, so that the first problem from the left
is reported. -/
def format (env : Environment) (text : String) (maxIndex : Option Int) (render : Renderer α)
    (arguments : Arguments α) : Logged Rendering := do
  let (rendering, _) ← Rendering.ofReader env render arguments (.fresh text maxIndex)
  match rendering.outcome with
  | .ok _ => Logged.write .debug (formattedMessage text.length arguments.size)
  | .error _ => pure ()
  return rendering

end Positional
