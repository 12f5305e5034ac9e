import Positional.Template.Segment
import Positional.Text.Cursor

/-!
# Scanning a template

A cursor moves through a template from left to right and gives one segment at a time.  A run of
literal text ends where a placeholder starts, where a brace is at fault, or at the end of the
template; the run is given only if what follows it is not at fault.
-/

namespace Positional.Template

/-- A run of literal text: the text with doubled braces collapsed, how many characters of the
template it takes up, and the characters after it. -/
structure Run where
  text : List Char
  width : Nat
  rest : List Char
deriving DecidableEq

/-- Put a character that takes up `width` characters of the template in front of a run. -/
def Run.cons (c : Char) (width : Nat) (run : Run) : Run :=
  ⟨c :: run.text, width + run.width, run.rest⟩

/-- The longest run of literal text at the front of a template. -/
def literalRun : List Char → Run
  | '{' :: '{' :: rest => (literalRun rest).cons '{' 2
  | '}' :: '}' :: rest => (literalRun rest).cons '}' 2
  | '{' :: rest => ⟨[], 0, '{' :: rest⟩
  | '}' :: rest => ⟨[], 0, '}' :: rest⟩
  | c :: rest => (literalRun rest).cons c 1
  | [] => ⟨[], 0, []⟩

/-- A placeholder that was read: its index, the number of its digits, and the characters after its
closing brace. -/
structure Reference where
  index : Nat
  digits : Nat
  rest : List Char
deriving DecidableEq

def malformed (flaw : Flaw) (start : Nat) : Fault :=
  .format (.malformed flaw (some start))

/-- Read a placeholder from the characters after its opening brace.  An index with more digits than
the ceiling is above it, whatever its value, and is refused without computing the value. -/
def readReference (ceiling : Int) (start : Nat) (body : List Char) : Except Fault Reference :=
  let digits := body.takeWhile Numeral.isDigit
  match body.dropWhile Numeral.isDigit with
  | [] => .error (malformed .unterminated start)
  | found :: rest =>
    if digits.isEmpty then .error (malformed (.missingIndex found) start)
    else if found ≠ '}' then .error (malformed (.missingClose found) start)
    else if (Numeral.text ceiling).length < (Numeral.significant digits).length then
      .error (malformed (.aboveCeiling ceiling) start)
    else do
      let index ← Numeral.read digits
      if ceiling < index then .error (malformed (.aboveCeiling ceiling) start)
      else .ok ⟨index, digits.length, rest⟩

inductive Pull where
  | segment (segment : Segment) (next : Cursor Char)
  | fault (fault : Fault)
  | done
deriving DecidableEq

/-- Give a literal if there is text, and otherwise what follows it. -/
def orLiteral (text : List Char) (place : Cursor Char) (following : Pull) : Pull :=
  if text.isEmpty then following else .segment (.literal (String.ofList text)) place

/-- The next segment.  What follows a run of literal text is checked before the run is given. -/
def pull (ceiling : Int) (cursor : Cursor Char) : Pull :=
  let run := literalRun cursor.rest
  let start := cursor.offset + run.width
  match run.rest with
  | [] => orLiteral run.text ⟨start, []⟩ .done
  | '{' :: body =>
    match readReference ceiling start body with
    | .error fault => .fault fault
    | .ok reference =>
      orLiteral run.text ⟨start, '{' :: body⟩
        (.segment (.placeholder reference.index (some start))
          ⟨start + reference.digits + 2, reference.rest⟩)
  | _ :: _ => .fault (.format (.unmatchedClosingBrace (some start)))

theorem literalRun_length (text : List Char) :
    (literalRun text).width + (literalRun text).rest.length = text.length := by
  fun_induction literalRun text <;> simp_all [Run.cons] <;> omega

theorem literalRun_text_length (text : List Char) :
    (literalRun text).text.length ≤ (literalRun text).width := by
  fun_induction literalRun text <;> simp_all [Run.cons] <;> omega

theorem readReference_length {ceiling : Int} {start : Nat} {body : List Char}
    {reference : Reference} (h : readReference ceiling start body = .ok reference) :
    reference.digits + 1 + reference.rest.length = body.length := by
  have hsplit : (body.takeWhile Numeral.isDigit).length +
      (body.dropWhile Numeral.isDigit).length = body.length := by
    rw [← List.length_append, List.takeWhile_append_dropWhile]
  simp only [readReference] at h
  split at h
  · simp at h
  · rename_i found rest hrest
    rw [hrest] at hsplit
    split at h
    · simp at h
    · split at h
      · simp at h
      · split at h
        · simp at h
        · cases hread : Numeral.read (body.takeWhile Numeral.isDigit) with
          | error fault => simp [hread, bind, Except.bind] at h
          | ok index =>
              simp only [hread, bind, Except.bind] at h
              split at h
              · simp at h
              · injection h with h
                subst h
                simp at hsplit ⊢
                omega

/-- Pulling a segment moves the cursor forward, and no character is lost or counted twice. -/
theorem pull_next {ceiling : Int} {cursor next : Cursor Char} {segment : Segment}
    (h : pull ceiling cursor = .segment segment next) :
    next.rest.length < cursor.rest.length ∧
      next.offset + next.rest.length = cursor.offset + cursor.rest.length := by
  have hrun := literalRun_length cursor.rest
  have htext := literalRun_text_length cursor.rest
  simp only [pull] at h
  split at h
  · rename_i hrest
    rw [hrest] at hrun
    simp only [orLiteral] at h
    split at h
    · simp at h
    · rename_i hempty
      injection h with _ h
      subst h
      have hpos : 0 < (literalRun cursor.rest).text.length := by
        rw [List.length_pos_iff]
        simpa using hempty
      simp at hrun ⊢
      omega
  · rename_i body hrest
    rw [hrest] at hrun
    split at h
    · simp at h
    · rename_i reference hreference
      have hlength := readReference_length hreference
      simp only [orLiteral] at h
      split at h
      · injection h with _ h
        subst h
        simp at hrun ⊢
        omega
      · rename_i hempty
        injection h with _ h
        subst h
        have hpos : 0 < (literalRun cursor.rest).text.length := by
          rw [List.length_pos_iff]
          simpa using hempty
        simp at hrun ⊢
        omega
  · simp at h

/-- All that a cursor gives: segments, then a fault or the end. -/
structure Listing where
  segments : List Segment
  fault : Option Fault
deriving DecidableEq

def drain (ceiling : Int) (cursor : Cursor Char) : Listing :=
  match _h : pull ceiling cursor with
  | .segment segment next =>
    let following := drain ceiling next
    ⟨segment :: following.segments, following.fault⟩
  | .fault fault => ⟨[], some fault⟩
  | .done => ⟨[], none⟩
termination_by cursor.rest.length
decreasing_by exact (pull_next _h).1

theorem drain_of_segment {ceiling : Int} {cursor next : Cursor Char} {segment : Segment}
    (h : pull ceiling cursor = .segment segment next) :
    drain ceiling cursor =
      ⟨segment :: (drain ceiling next).segments, (drain ceiling next).fault⟩ := by
  rw [drain]
  split <;> simp_all

theorem drain_of_fault {ceiling : Int} {cursor : Cursor Char} {fault : Fault}
    (h : pull ceiling cursor = .fault fault) : drain ceiling cursor = ⟨[], some fault⟩ := by
  rw [drain]
  split <;> simp_all

theorem drain_of_done {ceiling : Int} {cursor : Cursor Char}
    (h : pull ceiling cursor = .done) : drain ceiling cursor = ⟨[], none⟩ := by
  rw [drain]
  split <;> simp_all

end Positional.Template
