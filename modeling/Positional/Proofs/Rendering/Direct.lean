import Positional.Proofs.Rendering.Streaming
import Positional.Proofs.Template.NormalForm

/-!
# Rendering without a memory

A rendering recalls the text of an index that it has met before.  What it comes to is the same as
that of rendering every segment anew and putting the texts one after the other: each recorded call
is that of an argument, so a text that is recalled is the one that another call would give.
-/

namespace Positional

variable {α : Type} {render : Renderer α} {arguments : Arguments α}

namespace Segment

/-- What a segment comes to, its argument rendered anew. -/
def rendered (render : Renderer α) (arguments : Arguments α) : Segment → Except Fault LooseText
  | literal text => .ok text
  | placeholder index position =>
    if (arguments.size : Int) ≤ index then
      .error (.ofFormatError (.indexOutOfRange index arguments.size position))
    else
      match arguments.get? index with
      | none => .error (arguments.absence index)
      | some argument => render argument

theorem rendered_out_of_range {index : Int} (hrange : arguments.size ≤ index)
    (position : Option Int) :
    (placeholder index position).rendered render arguments =
      .error (.ofFormatError (.indexOutOfRange index arguments.size position)) := by
  rw [rendered, if_pos hrange]

/-- The texts of segments one after the other, or the first fault. -/
def renderedAll (render : Renderer α) (arguments : Arguments α) :
    List Segment → Except Fault LooseText
  | [] => .ok ""
  | segment :: rest => do
    return (← segment.rendered render arguments) ++ (← renderedAll render arguments rest)

@[simp] theorem renderedAll_nil : renderedAll render arguments [] = .ok "" := rfl

theorem renderedAll_cons_ok {segment : Segment} {text : LooseText}
    (h : segment.rendered render arguments = .ok text) (rest : List Segment) :
    renderedAll render arguments (segment :: rest) =
      (renderedAll render arguments rest).map (text ++ ·) := by
  rw [renderedAll, h]
  cases renderedAll render arguments rest <;> rfl

theorem renderedAll_cons_error {segment : Segment} {fault : Fault}
    (h : segment.rendered render arguments = .error fault) (rest : List Segment) :
    renderedAll render arguments (segment :: rest) = .error fault := by
  rw [renderedAll, h]
  rfl

@[simp] theorem renderedAll_literal (text : String) (rest : List Segment) :
    renderedAll render arguments (literal text :: rest) =
      (renderedAll render arguments rest).map (.ofString text ++ ·) :=
  renderedAll_cons_ok rfl rest

theorem map_append_empty (outcome : Except Fault LooseText) :
    outcome.map (.ofString "" ++ ·) = outcome := by
  cases outcome <;> rfl

theorem map_append_map (a b : LooseText) (outcome : Except Fault LooseText) :
    (outcome.map (b ++ ·)).map (a ++ ·) = outcome.map ((a ++ b) ++ ·) := by
  cases outcome <;> simp [Except.map, LooseText.append_assoc]

theorem renderedAll_joinLiteral (text : String) (segments : List Segment) :
    renderedAll render arguments (joinLiteral text segments) =
      (renderedAll render arguments segments).map (.ofString text ++ ·) := by
  rcases joinLiteral_cases text segments with
    ⟨rfl, hjoin⟩ | ⟨next, rest, rfl, hjoin⟩ | ⟨-, hjoin⟩ <;> rw [hjoin]
  · rw [map_append_empty]
  · rw [renderedAll_literal, renderedAll_literal, map_append_map, LooseText.ofString_append]
  · rw [renderedAll_literal]

theorem renderedAll_append (before after : List Segment) :
    renderedAll render arguments (before ++ after) =
      match renderedAll render arguments before with
      | .ok text => (renderedAll render arguments after).map (text ++ ·)
      | .error fault => .error fault := by
  induction before with
  | nil => exact (map_append_empty _).symm
  | cons segment rest ih =>
      rw [List.cons_append]
      cases hsegment : segment.rendered render arguments with
      | error fault => rw [renderedAll_cons_error hsegment, renderedAll_cons_error hsegment]
      | ok text =>
          rw [renderedAll_cons_ok hsegment, renderedAll_cons_ok hsegment, ih]
          cases renderedAll render arguments rest with
          | error fault => rfl
          | ok more => exact map_append_map text more _

/-- A position is part of an error only, so it does not matter to a text. -/
theorem rendered_of_erasePosition {a b : Segment} (h : a.erasePosition = b.erasePosition)
    {text : LooseText} (htext : a.rendered render arguments = .ok text) :
    b.rendered render arguments = .ok text := by
  cases a with
  | literal s =>
      cases b with
      | literal t =>
          obtain rfl : s = t := literal.inj h
          exact htext
      | placeholder index position => cases h
  | placeholder index position =>
      cases b with
      | literal t => cases h
      | placeholder other place =>
          obtain rfl : index = other := (placeholder.inj h).1
          rw [rendered] at htext ⊢
          split at htext
          · cases htext
          · rename_i hrange
            rw [if_neg hrange]
            exact htext

theorem renderedAll_of_erasePosition {a b : List Segment}
    (h : a.map erasePosition = b.map erasePosition) {text : LooseText}
    (htext : renderedAll render arguments a = .ok text) :
    renderedAll render arguments b = .ok text := by
  induction a generalizing b text with
  | nil =>
      obtain rfl := List.map_eq_nil_iff.1 h.symm
      exact htext
  | cons first rest ih =>
      cases b with
      | nil => cases h
      | cons other more =>
          obtain ⟨hfirst, hrest⟩ := List.cons.inj h
          cases hrendered : first.rendered render arguments with
          | error fault =>
              rw [renderedAll_cons_error hrendered] at htext
              cases htext
          | ok start =>
              have hother := rendered_of_erasePosition hfirst hrendered
              rw [renderedAll_cons_ok hrendered] at htext
              rw [renderedAll_cons_ok hother]
              cases hmore : renderedAll render arguments rest with
              | error fault =>
                  rw [hmore] at htext
                  cases htext
              | ok tail =>
                  rw [hmore] at htext
                  rw [ih hrest hmore]
                  exact htext

end Segment

/-! ## The memory -/

namespace Progress

/-- Every recorded call is that of an argument, with the renderer's answer. -/
def IsFaithful (render : Renderer α) (arguments : Arguments α) (progress : Progress) : Prop :=
  ∀ call ∈ progress.calls, ∃ argument, arguments.get? call.index = some argument ∧
    render argument = call.answer

variable {progress : Progress}

theorem isFaithful_start : start.IsFaithful render arguments := by
  intro call hmem
  cases hmem

theorem IsFaithful.append (h : progress.IsFaithful render arguments) (text : LooseText) :
    (progress.append text).IsFaithful render arguments :=
  h

theorem IsFaithful.record (h : progress.IsFaithful render arguments) {index : Int} {argument : α}
    (hget : arguments.get? index = some argument) :
    (progress.record index (render argument)).IsFaithful render arguments := by
  intro call hmem
  rcases List.mem_append.1 hmem with hmem | hmem
  · exact h call hmem
  · obtain rfl := List.mem_singleton.1 hmem
    exact ⟨argument, hget, rfl⟩

theorem IsFaithful.recalled? (h : progress.IsFaithful render arguments) {index : Int}
    {text : LooseText} (hrecalled : progress.recalled? index = some text) :
    ∃ argument, arguments.get? index = some argument ∧ render argument = .ok text := by
  obtain ⟨call, hmem, hcall⟩ := List.exists_of_findSome?_eq_some hrecalled
  obtain ⟨argument, hget, hrender⟩ := h call hmem
  split at hcall
  · rename_i hindex
    rw [hindex] at hget
    refine ⟨argument, hget, hrender.trans ?_⟩
    cases hanswer : call.answer with
    | ok answer =>
        rw [hanswer] at hcall
        rw [Option.some.inj hcall]
    | error fault =>
        rw [hanswer] at hcall
        cases hcall
  · cases hcall

/-- One step of a rendering adds the text that the segment comes to, or ends with its fault. -/
theorem renderSegment_rendered (h : progress.IsFaithful render arguments) (segment : Segment) :
    (∃ text further, segment.rendered render arguments = .ok text ∧
        progress.renderSegment render arguments segment = (further, none) ∧
        further.text = progress.text ++ text ∧ further.IsFaithful render arguments) ∨
      ∃ fault further, segment.rendered render arguments = .error fault ∧
        progress.renderSegment render arguments segment = (further, some fault) := by
  cases segment with
  | literal text => exact .inl ⟨text, progress.append text, rfl, rfl, rfl, h.append text⟩
  | placeholder index position =>
      rw [Segment.rendered, renderSegment]
      by_cases hrange : (arguments.size : Int) ≤ index
      · rw [if_pos hrange, if_pos hrange]
        exact .inr ⟨_, progress, rfl, rfl⟩
      · rw [if_neg hrange, if_neg hrange]
        cases hrecalled : progress.recalled? index with
        | some text =>
            obtain ⟨argument, hget, hrender⟩ := h.recalled? hrecalled
            rw [hget]
            exact .inl ⟨text, progress.append text, hrender, rfl, rfl, h.append text⟩
        | none =>
            cases hget : arguments.get? index with
            | none =>
                simp only [renderFresh, hget]
                exact .inr ⟨_, progress, rfl, rfl⟩
            | some argument =>
                have hfaithful := h.record hget
                cases hrender : render argument with
                | error fault =>
                    simp only [renderFresh, hget, hrender]
                    exact .inr ⟨fault, _, rfl, rfl⟩
                | ok text =>
                    rw [hrender] at hfaithful
                    simp only [renderFresh, hget, hrender]
                    exact .inl ⟨text, _, rfl, rfl, rfl, hfaithful.append text⟩

end Progress

namespace Rendering

theorem continueList_outcome {progress : Progress} (h : progress.IsFaithful render arguments)
    (segments : List Segment) :
    (continueList render arguments progress segments).outcome =
      (Segment.renderedAll render arguments segments).map (progress.text ++ ·) := by
  induction segments generalizing progress with
  | nil =>
      have hend : progress.text = progress.text ++ "" := by simp
      exact congrArg Except.ok hend
  | cons segment rest ih =>
      rw [continueList_cons]
      rcases progress.renderSegment_rendered h segment with
        ⟨text, further, hrendered, hstep, htext, hfurther⟩ | ⟨fault, further, hrendered, hstep⟩
      · rw [hstep, Segment.renderedAll_cons_ok hrendered]
        exact (ih hfurther).trans (by rw [htext, Segment.map_append_map])
      · rw [hstep, Segment.renderedAll_cons_error hrendered]
        rfl

/-- A rendering comes to what its segments come to, each rendered anew. -/
theorem ofSegments_outcome (segments : List Segment) :
    (ofSegments render arguments segments).outcome =
      Segment.renderedAll render arguments segments := by
  rw [ofSegments, continueList_outcome Progress.isFaithful_start]
  exact Segment.map_append_empty _

end Rendering

/-! ## Listings -/

namespace Template

/-- What a listing comes to: the texts of its segments, or the first fault. -/
def Listing.rendered (render : Renderer α) (arguments : Arguments α) (listing : Listing) :
    Except Fault LooseText :=
  match Segment.renderedAll render arguments listing.segments, listing.fault with
  | .ok _, some fault => .error fault
  | outcome, _ => outcome

@[simp] theorem Listing.rendered_done (segments : List Segment) :
    Listing.rendered render arguments ⟨segments, none⟩ =
      Segment.renderedAll render arguments segments := by
  unfold Listing.rendered
  cases Segment.renderedAll render arguments segments <;> rfl

end Template

theorem format_outcome {env : Environment} {text : String} {maxIndex : Option Int} :
    (format env text maxIndex render arguments).result.outcome =
      ((Reader.fresh text maxIndex).drain env).result.rendered render arguments := by
  rw [format_result]
  generalize ((Reader.fresh text maxIndex).drain env).result = listing
  obtain ⟨segments, fault⟩ := listing
  have hsegments : (Rendering.ofSegments render arguments segments).outcome =
      Segment.renderedAll render arguments segments := Rendering.ofSegments_outcome segments
  unfold Template.Listing.rendered
  cases hall : Segment.renderedAll render arguments segments with
  | error problem =>
      rw [hall] at hsegments
      rw [Rendering.followedBy_of_error hsegments, hsegments]
  | ok written =>
      rw [hall] at hsegments
      cases fault with
      | none => rw [Rendering.followedBy_none, hsegments]
      | some fault => rw [Rendering.followedBy_of_ok hsegments]

theorem format_of_parse {env : Environment} {text : String} {maxIndex : Option Int}
    {template : Template} (h : (Template.parse env text maxIndex).result = .ok template) :
    (format env text maxIndex render arguments).result.outcome =
      Segment.renderedAll render arguments template.segments := by
  rw [format_outcome, Template.parse_eq_ok_iff.1 h, Template.Listing.rendered_done]

theorem exists_parse_of_format {env : Environment} {text : String} {maxIndex : Option Int}
    {written : LooseText}
    (h : (format env text maxIndex render arguments).result.outcome = .ok written) :
    ∃ template, (Template.parse env text maxIndex).result = .ok template := by
  rw [format_outcome] at h
  simp only [Template.parse_eq_ok_iff]
  generalize ((Reader.fresh text maxIndex).drain env).result = listing at h ⊢
  obtain ⟨segments, fault⟩ := listing
  cases fault with
  | none => exact ⟨⟨segments⟩, rfl⟩
  | some fault =>
      rw [Template.Listing.rendered] at h
      cases hall : Segment.renderedAll render arguments segments <;> rw [hall] at h <;> cases h

theorem format_given {bound : Int} (env : Environment) (text : String)
    (h : Numeral.isWritable bound = true) :
    (format env text (some bound) render arguments).result.outcome =
      (Template.drain bound ⟨0, text.toList⟩).rendered render arguments := by
  rw [format_outcome, Reader.drain_fresh_ok (Reader.ceiling_of_isWritable env h)]

end Positional
