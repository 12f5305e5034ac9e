import Positional.Proofs.Rendering.Streaming
import Positional.Proofs.Template.Pulls

/-!
# Rendering the rest of a reader

Rendering what is left of a reader pulls it segment by segment.  If a segment cannot be rendered,
nothing behind it was pulled, so the reader goes on with the segment after it; otherwise the fault
or the end was pulled too.
-/

namespace Positional

variable {α : Type}

namespace Rendering

variable (render : Renderer α) (arguments : Arguments α)

/-- How often a reader is pulled when its segments are rendered.  The pull behind the last segment
finds the fault or the end. -/
def pullCount (progress : Progress) : List Segment → Nat
  | [] => 1
  | segment :: rest =>
    match progress.renderSegment render arguments segment with
    | (further, none) => pullCount further rest + 1
    | (_, some _) => 1

/-! ## Where rendering stops -/

theorem pullCount_cons (progress : Progress) (segment : Segment) (rest : List Segment) :
    pullCount render arguments progress (segment :: rest) =
      match progress.renderSegment render arguments segment with
      | (further, none) => pullCount render arguments further rest + 1
      | (_, some _) => 1 := rfl

theorem pullCount_pos (progress : Progress) (segments : List Segment) :
    0 < pullCount render arguments progress segments := by
  cases segments with
  | nil => exact Nat.one_pos
  | cons segment rest =>
      rw [pullCount_cons]
      split
      · exact Nat.succ_pos _
      · exact Nat.one_pos

theorem pullCount_of_ok {progress : Progress} {segments : List Segment} {text : LooseText}
    (h : (continueList render arguments progress segments).outcome = .ok text) :
    pullCount render arguments progress segments = segments.length + 1 := by
  induction segments generalizing progress with
  | nil => rfl
  | cons segment rest ih =>
      rw [continueList_cons] at h
      rw [pullCount_cons]
      cases hsegment : progress.renderSegment render arguments segment with
      | mk further fault =>
          rw [hsegment] at h
          cases fault with
          | none => exact congrArg (· + 1) (ih h)
          | some fault => cases h

/-- The segment that stops a rendering is a placeholder, and it is the last one pulled. -/
theorem pullCount_of_stopped {progress : Progress} {before : List Segment} {segment : Segment}
    {text : LooseText} {problem : Fault} (after : List Segment)
    (hbefore : (continueList render arguments progress before).outcome = .ok text)
    (hstop : (continueList render arguments progress (before ++ [segment])).outcome =
      .error problem) :
    (∃ index position, segment = .placeholder index position) ∧
      pullCount render arguments progress (before ++ segment :: after) = before.length + 1 := by
  induction before generalizing progress with
  | nil =>
      rw [List.nil_append, continueList_cons] at hstop
      cases hsegment : progress.renderSegment render arguments segment with
      | mk further fault =>
          rw [hsegment] at hstop
          cases fault with
          | none => cases hstop
          | some fault =>
              constructor
              · cases segment with
                | literal added => cases hsegment
                | placeholder index position => exact ⟨index, position, rfl⟩
              · rw [List.nil_append, pullCount_cons, hsegment]
                rfl
  | cons first rest ih =>
      rw [continueList_cons] at hbefore
      rw [List.cons_append, continueList_cons] at hstop
      cases hfirst : progress.renderSegment render arguments first with
      | mk further fault =>
          rw [hfirst] at hbefore hstop
          cases fault with
          | some fault => cases hbefore
          | none =>
              obtain ⟨hplaceholder, hcount⟩ := ih hbefore hstop
              refine ⟨hplaceholder, ?_⟩
              rw [List.cons_append, pullCount_cons, hfirst, List.length_cons]
              exact congrArg (· + 1) hcount

/-- A rendering that is stopped is stopped by the first placeholder that has a fault, and nothing
behind that placeholder was pulled. -/
theorem exists_of_ofSegments_error {segments : List Segment} {problem : Fault}
    (h : (ofSegments render arguments segments).outcome = .error problem) :
    ∃ before index position after,
      segments = before ++ .placeholder index position :: after ∧
        (∃ text, (ofSegments render arguments before).outcome = .ok text) ∧
        ofSegments render arguments (before ++ [.placeholder index position]) =
          ofSegments render arguments segments ∧
        pullCount render arguments .start segments = before.length + 1 := by
  obtain ⟨before, segment, after, rfl, ⟨text, hbefore⟩, hstop⟩ :=
    exists_of_continueList_error render arguments h
  have houtcome : (continueList render arguments .start (before ++ [segment])).outcome =
      .error problem := (congrArg outcome hstop).trans h
  obtain ⟨⟨index, position, rfl⟩, hcount⟩ :=
    pullCount_of_stopped render arguments after hbefore houtcome
  exact ⟨before, index, position, after, rfl, ⟨text, hbefore⟩, hstop, hcount⟩

/-! ## The reader that remains -/

theorem continueCursor_snd (env : Environment) (ceiling : Int) (progress : Progress)
    (cursor : Cursor Char) :
    (continueCursor render arguments ceiling progress cursor).2 =
      ((Reader.reading ceiling cursor).pulls env
        (pullCount render arguments progress (Template.drain ceiling cursor).segments)).2 := by
  fun_induction continueCursor render arguments ceiling progress cursor with
  | case1 progress cursor segment next hpull further hsegment ih =>
      rw [ih, Template.drain_of_segment hpull, pullCount_cons, hsegment, Reader.pulls]
      simp [Reader.advance, hpull]
  | case2 progress cursor segment next hpull further fault hsegment =>
      rw [Template.drain_of_segment hpull, pullCount_cons, hsegment]
      simp [Reader.pulls, Reader.advance, hpull]
  | case3 progress cursor fault hpull =>
      rw [Template.drain_of_fault hpull]
      simp [pullCount, Reader.pulls, Reader.advance, hpull]
  | case4 progress cursor hpull =>
      rw [Template.drain_of_done hpull]
      simp [pullCount, Reader.pulls, Reader.advance, hpull]

/-- Rendering the rest of a reader renders what the reader still gives, and leaves the reader as the
pulls for that leave it. -/
theorem ofReader_result (env : Environment) (reader : Reader) :
    (ofReader env render arguments reader).result =
      ((ofSegments render arguments (reader.drain env).result.segments).followedBy
          (reader.drain env).result.fault,
        (reader.pulls env
          (pullCount render arguments .start (reader.drain env).result.segments)).2) := by
  have hreading : ∀ ceiling cursor, continueCursor render arguments ceiling .start cursor =
      ((ofSegments render arguments (Template.drain ceiling cursor).segments).followedBy
          (Template.drain ceiling cursor).fault,
        ((Reader.reading ceiling cursor).pulls env
          (pullCount render arguments .start (Template.drain ceiling cursor).segments)).2) :=
    fun ceiling cursor => Prod.ext (continueCursor_fst render arguments ceiling .start cursor)
      (continueCursor_snd render arguments env ceiling .start cursor)
  cases reader with
  | closed => rfl
  | reading ceiling cursor => exact hreading ceiling cursor
  | fresh text maxIndex =>
      cases hceiling : (Reader.ceiling env maxIndex).result with
      | error fault =>
          have hrest : (ofReader env render arguments (.fresh text maxIndex)).result =
              (stopped .start fault, .closed) := by
            simp only [ofReader, Logged.result_bind, Reader.settle_fresh, hceiling]
            rfl
          rw [hrest, Reader.drain_fresh_error hceiling, pullCount, Reader.pulls_one,
            Reader.next_fresh_error hceiling]
          rfl
      | ok bound =>
          have hrest : (ofReader env render arguments (.fresh text maxIndex)).result =
              continueCursor render arguments bound .start (Cursor.start text.toList) := by
            simp only [ofReader, Logged.result_bind, Reader.settle_fresh, hceiling]
            rfl
          rw [hrest, Reader.drain_fresh_ok hceiling,
            Reader.pulls_fresh hceiling (pullCount_pos render arguments _ _)]
          exact hreading bound _

end Rendering

end Positional
