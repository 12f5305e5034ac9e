import Positional.Proofs.Rendering.Referenced
import Positional.Proofs.Template.Acceptance

/-!
# Format errors of formatting

Where every argument has a text, a format error that formatting ends with is one of the template, or
the report of an index that is out of range.  It stands at an offset in the template, so its text is
never empty.
-/

namespace Positional

attribute [local instance (high)] instPowNat

variable {α : Type} {render : Renderer α} {arguments : Arguments α}
variable {env : Environment} {text : String} {maxIndex : Option Int} {error : FormatError}

theorem Segment.exists_of_renderedAll_error {segments : List Segment} {fault : Fault}
    (h : renderedAll render arguments segments = .error fault) :
    ∃ segment ∈ segments, segment.rendered render arguments = .error fault := by
  induction segments with
  | nil => cases h
  | cons segment rest ih =>
      cases hsegment : segment.rendered render arguments with
      | error problem =>
          rw [renderedAll_cons_error hsegment] at h
          exact ⟨segment, List.mem_cons_self, hsegment.trans h⟩
      | ok start =>
          rw [renderedAll_cons_ok hsegment] at h
          cases hrest : renderedAll render arguments rest with
          | ok more =>
              rw [hrest] at h
              cases h
          | error problem =>
              rw [hrest] at h
              obtain rfl := Except.error.inj h
              obtain ⟨other, hmem, hother⟩ := ih hrest
              exact ⟨other, List.mem_cons_of_mem _ hmem, hother⟩

/-- Where every argument has a text, only an index out of range is reported as a format error. -/
theorem Segment.rendered_format_error (htotal : render.IsTotal arguments) {segment : Segment}
    (h : segment.rendered render arguments = .error (.format error)) :
    ∃ index position, segment = .placeholder index position ∧ arguments.size ≤ index ∧
      error = .indexOutOfRange index arguments.size position ∧ error.isWritable = true := by
  cases segment with
  | literal text => cases h
  | placeholder index position =>
      rw [rendered] at h
      split at h
      · rename_i hrange
        rw [Fault.ofFormatError] at h
        split at h
        · rename_i hwritable
          obtain rfl := Fault.format.inj (Except.error.inj h)
          exact ⟨index, position, rfl, hrange, rfl, hwritable⟩
        · cases h
      · split at h
        · rw [Arguments.absence] at h
          split at h <;> cases h
        · rename_i hget
          obtain ⟨written, hwritten⟩ := htotal _ (Arguments.mem_of_get? hget)
          rw [hwritten] at h
          cases h

/-- A format error is one that the scan ends with, or it reports one of the listed placeholders. -/
theorem format_error_cases (htotal : render.IsTotal arguments)
    (h : (format env text maxIndex render arguments).result.outcome = .error (.format error)) :
    ((Reader.fresh text maxIndex).drain env).result.fault = some (.format error) ∨
      ∃ (index : Int) (position : Option Int), .placeholder index position ∈
          ((Reader.fresh text maxIndex).drain env).result.segments ∧ arguments.size ≤ index ∧
        error = .indexOutOfRange index arguments.size position ∧ error.isWritable = true := by
  rw [format_outcome] at h
  generalize ((Reader.fresh text maxIndex).drain env).result = listing at h ⊢
  rw [Template.Listing.rendered] at h
  cases hall : Segment.renderedAll render arguments listing.segments with
  | ok written =>
      rw [hall] at h
      cases hfault : listing.fault with
      | none =>
          rw [hfault] at h
          cases h
      | some fault =>
          rw [hfault] at h
          rw [Except.error.inj h]
          exact .inl rfl
  | error fault =>
      rw [hall] at h
      obtain rfl := Except.error.inj h
      obtain ⟨segment, hmem, hsegment⟩ := Segment.exists_of_renderedAll_error hall
      obtain ⟨index, position, rfl, hcases⟩ := Segment.rendered_format_error htotal hsegment
      exact .inr ⟨index, position, hmem, hcases⟩

/-- A format error of a scan stands at a brace of the text, and which brace tells its kind. -/
theorem Reader.brace_of_drain_fault
    (h : ((Reader.fresh text maxIndex).drain env).result.fault = some (.format error)) :
    ∃ start : Nat, start < text.length ∧
      ((text.toList[start]? = some '}' ∧ error = .unmatchedClosingBrace (some (start : Int))) ∨
        (text.toList[start]? = some '{' ∧ ∃ flaw, error = .malformed flaw (some (start : Int)))) := by
  cases hceiling : (ceiling env maxIndex).result with
  | error fault =>
      rw [drain_fresh_error hceiling, fault_of_ceiling hceiling] at h
      cases h
  | ok bound =>
      rw [drain_fresh_ok hceiling] at h
      rcases Template.derivation_or_rejected bound text.toList with
        hderivation | ⟨tokens, rest, fault, hlegal, htext, hrejected⟩
      · rw [Template.drain_fault_eq_none_iff.2 hderivation] at h
        cases h
      · have hfault := congrArg Template.Listing.fault
          (Template.drain_tokens_rejected hlegal hrejected)
        rw [Template.emitAll_fault, ← htext, h] at hfault
        obtain rfl := Option.some.inj hfault
        have hhead : text.toList[(Template.Token.spellings tokens).length]? = rest.head? := by
          rw [htext, List.getElem?_append_right (Nat.le_refl _), Nat.sub_self,
            List.head?_eq_getElem?]
        have hrest := List.length_pos_iff.2 hrejected.ne_nil
        have hlength := congrArg List.length htext
        rw [String.length_toList, List.length_append] at hlength
        refine ⟨(Template.Token.spellings tokens).length, by omega, ?_⟩
        rw [hhead]
        exact hrejected.format_cases

/-- A format error of a scan stands at an offset in the text, and names no index. -/
theorem Reader.position_of_drain_fault
    (h : ((Reader.fresh text maxIndex).drain env).result.fault = some (.format error)) :
    ∃ start : Nat, error.position = some (start : Int) ∧ start < text.length ∧
      error.index = none ∧ error.available = none := by
  obtain ⟨start, hstart, ⟨-, rfl⟩ | ⟨-, flaw, rfl⟩⟩ := Reader.brace_of_drain_fault h
  · exact ⟨start, rfl, hstart, rfl, rfl⟩
  · exact ⟨start, rfl, hstart, rfl, rfl⟩

theorem Reader.isWritable_of_drain_fault
    (h : ((Reader.fresh text maxIndex).drain env).result.fault = some (.format error))
    (hlength : text.length ≤ 10 ^ Numeral.digitLimit) : error.isWritable = true := by
  obtain ⟨start, hposition, hstart, hindex, havailable⟩ := Reader.position_of_drain_fault h
  have hwritable : Numeral.isWritable start = true := decide_eq_true (by omega)
  simp [FormatError.isWritable, hposition, hindex, havailable, hwritable]

theorem exists_position_of_format_error (htotal : render.IsTotal arguments)
    (h : (format env text maxIndex render arguments).result.outcome = .error (.format error)) :
    ∃ start : Nat, error.position = some (start : Int) ∧ start < text.length := by
  rcases format_error_cases htotal h with hfault | ⟨index, position, hmem, -, rfl, -⟩
  · obtain ⟨start, hposition, hstart, -⟩ := Reader.position_of_drain_fault hfault
    exact ⟨start, hposition, hstart⟩
  · obtain ⟨start, -, -, hposition, hstart⟩ := Reader.placeholder_mem_drain hmem
    exact ⟨start, hposition, hstart⟩

theorem isWritable_of_format_error (htotal : render.IsTotal arguments)
    (h : (format env text maxIndex render arguments).result.outcome = .error (.format error))
    (hlength : text.length ≤ 10 ^ Numeral.digitLimit) : error.isWritable = true := by
  rcases format_error_cases htotal h with hfault | ⟨index, position, -, -, -, hwritable⟩
  · exact Reader.isWritable_of_drain_fault hfault hlength
  · exact hwritable

theorem FormatError.text_ne_empty {start : Int} (h : error.position = some start) :
    error.text ≠ "" := by
  rw [FormatError.text, h]
  intro hempty
  have hlength := congrArg String.length hempty
  simp at hlength

end Positional
