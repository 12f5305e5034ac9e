import Positional.Template.Scan
import Positional.Settings

/-!
# Readers

A reader gives the segments of a template one at a time.  The largest accepted index is fixed at
the first pull: the one the reader was made with, or else the one that the environment sets at that
moment.  After the end or a fault a reader gives only the end.
-/

namespace Positional

open Template

inductive Reader where
  /-- not pulled yet -/
  | fresh (template : String) (maxIndex : Option Int)
  /-- pulled at least once, with the ceiling fixed -/
  | reading (ceiling : Int) (cursor : Cursor Char)
  /-- at its end, or past a fault -/
  | closed
deriving DecidableEq

namespace Reader

inductive Item where
  | segment (segment : Segment)
  | fault (fault : Fault)
  | done
deriving DecidableEq

/-- The ceiling that a given one, or else the environment, sets.  A ceiling with too many digits to
be written is refused. -/
def ceiling (env : Environment) (maxIndex : Option Int) : Logged (Except Fault Int) := do
  let chosen ← match maxIndex with
    | some given => pure given
    | none => Settings.maxIndex env
  return if Numeral.isWritable chosen then .ok chosen else .error .unwritableInteger

def advance (ceiling : Int) (cursor : Cursor Char) : Item × Reader :=
  match pull ceiling cursor with
  | .segment segment next => (.segment segment, .reading ceiling next)
  | .fault fault => (.fault fault, .closed)
  | .done => (.done, .closed)

/-- Fix the ceiling of a reader that was not pulled yet; other readers are left alone. -/
def settle (env : Environment) : Reader → Logged (Except Fault Reader)
  | fresh template maxIndex => do
    match ← ceiling env maxIndex with
    | .ok ceiling => return .ok (reading ceiling (Cursor.start template.toList))
    | .error fault => return .error fault
  | other => return .ok other

/-- Give the next item of a reader whose ceiling is fixed. -/
def step : Reader → Item × Reader
  | reading ceiling cursor => advance ceiling cursor
  | other => (.done, other)

def next (env : Environment) (reader : Reader) : Logged (Item × Reader) := do
  match ← reader.settle env with
  | .ok settled => return settled.step
  | .error fault => return (.fault fault, .closed)

/-- Give up to `count` further segments.  A fault loses those already taken. -/
def take (env : Environment) : Nat → Reader → Logged (Except Fault (List Segment) × Reader)
  | 0, reader => return (.ok [], reader)
  | count + 1, reader => do
    match ← reader.next env with
    | (.segment segment, remaining) =>
      let (taken, last) ← take env count remaining
      return (taken.map (segment :: ·), last)
    | (.fault fault, remaining) => return (.error fault, remaining)
    | (.done, remaining) => return (.ok [], remaining)

def drain (env : Environment) (reader : Reader) : Logged Listing := do
  match ← reader.settle env with
  | .ok (.reading ceiling cursor) => return Template.drain ceiling cursor
  | .ok _ => return ⟨[], none⟩
  | .error fault => return ⟨[], some fault⟩

@[simp] theorem next_closed (env : Environment) :
    closed.next env = pure (.done, closed) := rfl

@[simp] theorem next_reading (env : Environment) (ceiling : Int) (cursor : Cursor Char) :
    (reading ceiling cursor).next env = pure (advance ceiling cursor) := rfl

end Reader

end Positional
