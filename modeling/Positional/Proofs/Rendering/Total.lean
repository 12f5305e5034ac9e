import Positional.Proofs.Rendering.Streaming
import Positional.Proofs.Template.Indices
import Positional.Proofs.Template.Placeholder

/-!
# Renderers that always answer

Where the renderer has a text for every argument and no index is negative, a rendering comes to its
end exactly if every index is in range, and otherwise the first one that is not stops it.  A
template text has no negative index, so formatting ends as its scan does, or with such an index.
-/

namespace Positional

attribute [local instance (high)] instPowNat

variable {α : Type} {render : Renderer α} {arguments : Arguments α}

/-- Whether a renderer has a text for each of the arguments. -/
def Renderer.IsTotal (render : Renderer α) (arguments : Arguments α) : Prop :=
  ∀ argument ∈ arguments.items, ∃ text, render argument = .ok text

theorem Arguments.exists_get? {index : Int} (hnonneg : 0 ≤ index)
    (hrange : index < arguments.size) :
    ∃ argument ∈ arguments.items, arguments.get? index = some argument := by
  have hlt : index.toNat < arguments.items.length := by
    rw [Arguments.size] at hrange
    omega
  refine ⟨arguments.items[index.toNat], List.getElem_mem hlt, ?_⟩
  rw [Arguments.get?, if_pos hnonneg, List.getElem?_eq_getElem hlt]

/-- An index that can be written is reported unless its place cannot be. -/
theorem Fault.ofFormatError_indexOutOfRange {index : Int}
    (hindex : Numeral.isWritable index = true) {available : Nat} (hrange : available ≤ index)
    (position : Option Int) :
    ofFormatError (.indexOutOfRange index available position) =
      if position.all Numeral.isWritable then .format (.indexOutOfRange index available position)
      else .unwritableInteger := by
  have havailable : Numeral.isWritable available = true := by
    rw [Numeral.isWritable, decide_eq_true_eq] at hindex ⊢
    omega
  simp [ofFormatError, FormatError.isWritable, FormatError.position, FormatError.index,
    FormatError.available, hindex, havailable]

theorem Fault.ofFormatError_unwritable {index : Int} (h : Numeral.isWritable index = false)
    (available : Int) (position : Option Int) :
    ofFormatError (.indexOutOfRange index available position) = .unwritableInteger := by
  simp [ofFormatError, FormatError.isWritable, FormatError.index, h]

theorem Progress.renderSegment_in_range (htotal : render.IsTotal arguments) {index : Int}
    (hnonneg : 0 ≤ index) (hrange : index < arguments.size) (position : Option Int)
    (progress : Progress) :
    ∃ further, progress.renderSegment render arguments (.placeholder index position) =
      (further, none) := by
  rw [renderSegment, if_neg (by omega)]
  split
  · exact ⟨_, rfl⟩
  · obtain ⟨argument, hmem, hget⟩ := Arguments.exists_get? hnonneg hrange
    obtain ⟨text, htext⟩ := htotal argument hmem
    rw [renderFresh, hget]
    simp only [htext]
    exact ⟨_, rfl⟩

theorem Progress.renderSegment_out_of_range {index : Int} (hrange : arguments.size ≤ index)
    (position : Option Int) (progress : Progress) :
    progress.renderSegment render arguments (.placeholder index position) =
      (progress, some (.ofFormatError (.indexOutOfRange index arguments.size position))) := by
  rw [renderSegment, if_pos hrange]

namespace Rendering

/-- Segments whose indices are in range are rendered, and what follows them is rendered after. -/
theorem continueList_in_range (htotal : render.IsTotal arguments) {before : List Segment}
    (hnonneg : Segment.EachIndex (0 ≤ ·) before)
    (hrange : Segment.EachIndex (· < arguments.size) before) (progress : Progress) :
    ∃ further, ∀ after, continueList render arguments progress (before ++ after) =
      continueList render arguments further after := by
  induction before generalizing progress with
  | nil => exact ⟨progress, fun after => rfl⟩
  | cons segment rest ih =>
      cases segment with
      | literal text =>
          rw [Segment.eachIndex_literal] at hnonneg hrange
          exact ih hnonneg hrange (progress.append text)
      | placeholder index position =>
          rw [Segment.eachIndex_placeholder] at hnonneg hrange
          obtain ⟨further, hfurther⟩ :=
            Progress.renderSegment_in_range htotal hnonneg.1 hrange.1 position progress
          obtain ⟨last, hlast⟩ := ih hnonneg.2 hrange.2 further
          refine ⟨last, fun after => ?_⟩
          rw [List.cons_append, continueList, hfurther]
          exact hlast after

theorem ofSegments_in_range (htotal : render.IsTotal arguments) {segments : List Segment}
    (hnonneg : Segment.EachIndex (0 ≤ ·) segments)
    (hrange : Segment.EachIndex (· < arguments.size) segments) :
    ∃ text, (ofSegments render arguments segments).outcome = .ok text := by
  obtain ⟨further, hfurther⟩ := continueList_in_range htotal hnonneg hrange .start
  have hlast := hfurther []
  rw [List.append_nil] at hlast
  exact ⟨further.text, congrArg outcome hlast⟩

theorem ofSegments_out_of_range (htotal : render.IsTotal arguments) {segments : List Segment}
    (hnonneg : Segment.EachIndex (0 ≤ ·) segments)
    (hrange : ¬ Segment.EachIndex (· < arguments.size) segments) :
    ∃ (before : List Segment) (index : Int) (position : Option Int) (after : List Segment),
      segments = before ++ .placeholder index position :: after ∧
      Segment.EachIndex (· < arguments.size) before ∧ arguments.size ≤ index ∧
      (ofSegments render arguments segments).outcome =
        .error (.ofFormatError (.indexOutOfRange index arguments.size position)) := by
  obtain ⟨before, index, position, after, rfl, hbefore, hnot⟩ := Segment.exists_first_not hrange
  have hout : arguments.size ≤ index := Int.not_lt.1 hnot
  have hstart : Segment.EachIndex (0 ≤ ·) before := fun other place hmem =>
    hnonneg other place (List.mem_append_left _ hmem)
  obtain ⟨further, hfurther⟩ := continueList_in_range htotal hstart hbefore .start
  refine ⟨before, index, position, after, rfl, hbefore, hout, ?_⟩
  rw [ofSegments, hfurther, continueList, Progress.renderSegment_out_of_range hout]
  rfl

end Rendering

/-! ## Formatting with the environment's ceiling -/

variable {env : Environment} {text : String}

/-- A placeholder that a reader lists has an index that can be written, and stands in the text. -/
theorem Reader.placeholder_mem_drain {maxIndex : Option Int} {index : Int} {position : Option Int}
    (h : .placeholder index position ∈ ((Reader.fresh text maxIndex).drain env).result.segments) :
    ∃ start : Nat, 0 ≤ index ∧ Numeral.isWritable index = true ∧ position = some (start : Int) ∧
      start < text.length := by
  cases hceiling : (ceiling env maxIndex).result with
  | error fault =>
      rw [drain_fresh_error hceiling] at h
      cases h
  | ok bound =>
      rw [drain_fresh_ok hceiling] at h
      obtain ⟨start, hnonneg, hbound, hposition, hstart⟩ := Template.placeholder_mem_drain h
      have hwritable := isWritable_of_ceiling hceiling
      rw [Numeral.isWritable, decide_eq_true_eq] at hwritable
      have hindex : Numeral.isWritable index = true := decide_eq_true (by omega)
      rw [String.length_toList] at hstart
      exact ⟨start, hnonneg, hindex, hposition, hstart⟩

theorem drain_fresh_nonneg (env : Environment) (text : String) :
    Segment.EachIndex (0 ≤ ·) ((Reader.fresh text none).drain env).result.segments := by
  intro index position hmem
  obtain ⟨start, hnonneg, -⟩ := Reader.placeholder_mem_drain hmem
  exact hnonneg

theorem format_in_range (htotal : render.IsTotal arguments)
    (hrange : Segment.EachIndex (· < arguments.size)
      ((Reader.fresh text none).drain env).result.segments) :
    (((Reader.fresh text none).drain env).result.fault = none ∧
        ∃ written, (format env text none render arguments).result.outcome = .ok written) ∨
      ∃ fault, ((Reader.fresh text none).drain env).result.fault = some fault ∧
        (format env text none render arguments).result.outcome = .error fault := by
  obtain ⟨written, hwritten⟩ := Rendering.ofSegments_in_range htotal
    (drain_fresh_nonneg env text) hrange
  rw [format_result]
  cases hfault : ((Reader.fresh text none).drain env).result.fault with
  | none => exact .inl ⟨rfl, written, by rw [Rendering.followedBy_none]; exact hwritten⟩
  | some fault => exact .inr ⟨fault, rfl, by rw [Rendering.followedBy_of_ok hwritten]⟩

theorem format_out_of_range (htotal : render.IsTotal arguments)
    (hrange : ¬ Segment.EachIndex (· < arguments.size)
      ((Reader.fresh text none).drain env).result.segments) :
    (∃ error, (format env text none render arguments).result.outcome =
        .error (.format error)) ∨
      10 ^ Numeral.digitLimit < text.length ∧
        (format env text none render arguments).result.outcome = .error .unwritableInteger := by
  obtain ⟨before, index, position, after, hsplit, -, hout, hstop⟩ :=
    Rendering.ofSegments_out_of_range htotal (drain_fresh_nonneg env text) hrange
  have hmem : .placeholder index position ∈
      ((Reader.fresh text none).drain env).result.segments := by
    rw [hsplit]
    exact List.mem_append_right _ List.mem_cons_self
  obtain ⟨start, -, hindex, rfl, hstart⟩ := Reader.placeholder_mem_drain hmem
  rw [Fault.ofFormatError_indexOutOfRange hindex hout, Option.all_some] at hstop
  rw [format_result, Rendering.followedBy_of_error hstop]
  by_cases hposition : Numeral.isWritable start = true
  · rw [if_pos hposition] at hstop
    exact .inl ⟨_, hstop⟩
  · rw [if_neg hposition] at hstop
    refine .inr ⟨?_, hstop⟩
    rw [Numeral.isWritable, decide_eq_true_eq] at hposition
    omega

end Positional
