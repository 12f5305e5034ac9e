import Positional.Rendering
import Positional.Proofs.Template.Reader

/-!
# Rendering while scanning

A template is formatted by rendering its segments as they are pulled.  That comes to the same as
draining the reader first, rendering the listed segments, and going on into the fault that the
listing ends in.  So a template that parses is formatted as its segments are rendered, and of a
problem with the arguments and one with the template the one further left is reported.
-/

namespace Positional

variable {α : Type}

namespace Rendering

/-- A rendering with a fault behind it, which is reached unless the rendering was stopped. -/
def followedBy (fault : Option Fault) (rendering : Rendering) : Rendering :=
  match rendering.outcome, fault with
  | .ok _, some fault => ⟨.error fault, rendering.calls⟩
  | _, _ => rendering

@[simp] theorem followedBy_none (rendering : Rendering) : rendering.followedBy none = rendering := by
  unfold followedBy
  split <;> simp_all

theorem followedBy_of_error {rendering : Rendering} {problem : Fault}
    (h : rendering.outcome = .error problem) (fault : Option Fault) :
    rendering.followedBy fault = rendering := by
  simp [followedBy, h]

theorem followedBy_of_ok {rendering : Rendering} {text : LooseText}
    (h : rendering.outcome = .ok text) (fault : Fault) :
    rendering.followedBy (some fault) = ⟨.error fault, rendering.calls⟩ := by
  simp [followedBy, h]

variable (render : Renderer α) (arguments : Arguments α)

/-! ## One segment after another -/

theorem continueList_cons (progress : Progress) (segment : Segment) (rest : List Segment) :
    continueList render arguments progress (segment :: rest) =
      match progress.renderSegment render arguments segment with
      | (further, none) => continueList render arguments further rest
      | (further, some fault) => stopped further fault := rfl

/-- Rendering a cursor is rendering what it lists, and then its fault. -/
theorem continueCursor_fst (ceiling : Int) (progress : Progress) (cursor : Cursor Char) :
    (continueCursor render arguments ceiling progress cursor).1 =
      (continueList render arguments progress (Template.drain ceiling cursor).segments).followedBy
        (Template.drain ceiling cursor).fault := by
  fun_induction continueCursor render arguments ceiling progress cursor with
  | case1 progress cursor segment next hpull further hsegment ih =>
      rw [ih, Template.drain_of_segment hpull, continueList_cons, hsegment]
  | case2 progress cursor segment next hpull further fault hsegment =>
      rw [Template.drain_of_segment hpull, continueList_cons, hsegment]
      have hstopped : (stopped further fault).outcome = .error fault := rfl
      exact (followedBy_of_error hstopped _).symm
  | case3 progress cursor fault hpull =>
      rw [Template.drain_of_fault hpull]
      have hwritten : (continueList render arguments progress []).outcome = .ok progress.text :=
        rfl
      exact (followedBy_of_ok hwritten fault).symm
  | case4 progress cursor hpull =>
      rw [Template.drain_of_done hpull, followedBy_none]
      rfl

/-- A rendering that is stopped is stopped by the first segment that has a fault. -/
theorem exists_of_continueList_error {progress : Progress} {segments : List Segment}
    {problem : Fault}
    (h : (continueList render arguments progress segments).outcome = .error problem) :
    ∃ before segment after, segments = before ++ segment :: after ∧
      (∃ text, (continueList render arguments progress before).outcome = .ok text) ∧
      continueList render arguments progress (before ++ [segment]) =
        continueList render arguments progress segments := by
  induction segments generalizing progress with
  | nil => cases h
  | cons segment rest ih =>
      cases hsegment : progress.renderSegment render arguments segment with
      | mk further fault =>
          cases fault with
          | some fault =>
              refine ⟨[], segment, rest, rfl, ⟨progress.text, rfl⟩, ?_⟩
              rw [List.nil_append, continueList_cons, continueList_cons, hsegment]
          | none =>
              rw [continueList_cons, hsegment] at h
              obtain ⟨before, stop, after, rfl, ⟨text, hbefore⟩, hstop⟩ := ih h
              refine ⟨segment :: before, stop, after, rfl, ⟨text, ?_⟩, ?_⟩
              · rw [continueList_cons, hsegment]
                exact hbefore
              · rw [List.cons_append, continueList_cons, continueList_cons, hsegment]
                exact hstop

end Rendering

variable (env : Environment) (text : String) (maxIndex : Option Int) (render : Renderer α)
  (arguments : Arguments α)

/-- Formatting is rendering what the reader lists, and then its fault. -/
theorem format_result :
    (format env text maxIndex render arguments).result =
      (Rendering.ofSegments render arguments
        ((Reader.fresh text maxIndex).drain env).result.segments).followedBy
          ((Reader.fresh text maxIndex).drain env).result.fault := by
  have hformat : (format env text maxIndex render arguments).result =
      (Rendering.ofReader env render arguments (.fresh text maxIndex)).result.1 := by
    simp only [format, Logged.result_bind]
    split <;> rfl
  rw [hformat]
  cases hceiling : (Reader.ceiling env maxIndex).result with
  | error fault =>
      rw [Reader.drain_fresh_error hceiling]
      simp only [Rendering.ofReader, Logged.result_bind, Reader.settle_fresh, hceiling]
      rfl
  | ok ceiling =>
      have hreader : (Rendering.ofReader env render arguments (.fresh text maxIndex)).result =
          Rendering.continueCursor render arguments ceiling .start ⟨0, text.toList⟩ := by
        simp only [Rendering.ofReader, Logged.result_bind, Reader.settle_fresh, hceiling]
        rfl
      rw [hreader, Rendering.continueCursor_fst, Reader.drain_fresh_ok hceiling]
      rfl

/-- Formatting agrees with parsing and then rendering, the calls of the renderer included.  Where
the template does not parse, a problem that rendering meets before the fault is reported, and
otherwise the fault is; in each case it is the first problem of the scan. -/
theorem format_eq_parse_render :
    (∀ template, (Template.parse env text maxIndex).result = .ok template →
        (format env text maxIndex render arguments).result = template.render render arguments) ∧
      (∀ fault, (Template.parse env text maxIndex).result = .error fault →
        (∀ problem, (Rendering.ofSegments render arguments
              ((Reader.fresh text maxIndex).drain env).result.segments).outcome = .error problem →
            (format env text maxIndex render arguments).result =
              Rendering.ofSegments render arguments
                ((Reader.fresh text maxIndex).drain env).result.segments) ∧
          ∀ written, (Rendering.ofSegments render arguments
              ((Reader.fresh text maxIndex).drain env).result.segments).outcome = .ok written →
            (format env text maxIndex render arguments).result =
              ⟨.error fault, (Rendering.ofSegments render arguments
                ((Reader.fresh text maxIndex).drain env).result.segments).calls⟩) ∧
      ∀ problem, (format env text maxIndex render arguments).result.outcome = .error problem →
        (∃ before segment after,
          ((Reader.fresh text maxIndex).drain env).result.segments = before ++ segment :: after ∧
            (∃ written, (Rendering.ofSegments render arguments before).outcome = .ok written) ∧
            (Rendering.ofSegments render arguments (before ++ [segment])).outcome =
              .error problem) ∨
          ((∃ written, (Rendering.ofSegments render arguments
              ((Reader.fresh text maxIndex).drain env).result.segments).outcome = .ok written) ∧
            ((Reader.fresh text maxIndex).drain env).result.fault = some problem) := by
  rw [format_result, Template.parse_result]
  generalize ((Reader.fresh text maxIndex).drain env).result = listing
  obtain ⟨segments, fault⟩ := listing
  refine ⟨?_, ?_, ?_⟩
  · rintro template h
    cases fault with
    | some fault => cases h
    | none =>
        obtain rfl := Except.ok.inj h
        exact Rendering.followedBy_none _
  · rintro reported h
    cases fault with
    | none => cases h
    | some fault =>
        obtain rfl := Except.error.inj h
        exact ⟨fun problem hproblem => Rendering.followedBy_of_error hproblem _,
          fun written hwritten => Rendering.followedBy_of_ok hwritten _⟩
  · rintro problem h
    cases hrendering : (Rendering.ofSegments render arguments segments).outcome with
    | error stop =>
        rw [Rendering.followedBy_of_error hrendering, hrendering] at h
        obtain rfl := Except.error.inj h
        obtain ⟨before, segment, after, hsplit, hbefore, hstop⟩ :=
          Rendering.exists_of_continueList_error render arguments hrendering
        exact .inl ⟨before, segment, after, hsplit, hbefore,
          (congrArg Rendering.outcome hstop).trans hrendering⟩
    | ok written =>
        cases fault with
        | none =>
            rw [Rendering.followedBy_none, hrendering] at h
            cases h
        | some fault =>
            rw [Rendering.followedBy_of_ok hrendering] at h
            obtain rfl := Except.error.inj h
            exact .inr ⟨⟨written, rfl⟩, rfl⟩

end Positional
