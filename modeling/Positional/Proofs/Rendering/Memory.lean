import Positional.Proofs.Rendering.Append

/-!
# The memory of a rendering

After each segment the recorded calls are those of the indices met so far, each once, in order of
first occurrence.  So the renderer is called no more often than there are distinct indices, and a
rendering comes to what its segments come to one by one, up to the first fault.
-/

namespace Positional

attribute [local instance (high)] instPowNat

variable {α : Type} {render : Renderer α} {arguments : Arguments α}

/-! ## Indices of arguments -/

namespace Arguments

/-- Whether an index is that of an argument, a negative one counted from the end. -/
def hasIndex (arguments : Arguments α) (index : Int) : Bool :=
  -arguments.size ≤ index && index < arguments.size

theorem hasIndex_iff {index : Int} :
    arguments.hasIndex index = true ↔ -(arguments.size : Int) ≤ index ∧ index < arguments.size := by
  simp [hasIndex]

theorem get?_of_nonneg {index : Int} (h : 0 ≤ index) :
    arguments.get? index = arguments.items[index.toNat]? := by
  rw [get?, if_pos h]

theorem get?_of_neg {index : Int} (hneg : index < 0) (hrange : -(arguments.size : Int) ≤ index) :
    arguments.get? index = arguments.items[(arguments.size + index).toNat]? := by
  have hplace : arguments.size - (-index).toNat = (arguments.size + index).toNat := by omega
  rw [get?, if_neg (by omega), if_pos (by omega), hplace]

theorem get?_eq_none {index : Int} (h : index < -(arguments.size : Int)) :
    arguments.get? index = none := by
  rw [get?, if_neg (by omega), if_neg (by omega)]

/-- Below the number of arguments, the indices of arguments are those at which one is found. -/
theorem hasIndex_eq_isSome {index : Int} (h : index < arguments.size) :
    arguments.hasIndex index = (arguments.get? index).isSome := by
  by_cases hlow : -(arguments.size : Int) ≤ index
  · have hplace : (arguments.get? index).isSome = true := by
      rw [size] at h hlow
      by_cases hnonneg : 0 ≤ index
      · rw [get?_of_nonneg hnonneg, List.getElem?_eq_getElem (by omega), Option.isSome_some]
      · rw [get?_of_neg (by omega) hlow, size, List.getElem?_eq_getElem (by omega),
          Option.isSome_some]
    rw [hplace, hasIndex_iff]
    exact ⟨hlow, h⟩
  · rw [get?_eq_none (by omega), Option.isSome_none, Bool.eq_false_iff]
    exact fun hindex => hlow (hasIndex_iff.1 hindex).1

/-- The indices of arguments that segments refer to, each once, in order of first occurrence. -/
def met (arguments : Arguments α) (segments : List Segment) : List Int :=
  ((segments.filterMap Segment.index?).filter arguments.hasIndex).eraseDups

variable {before : List Segment} {index : Int} {position : Option Int}

@[simp] theorem met_nil : arguments.met [] = [] := rfl

theorem met_literal (text : String) :
    arguments.met (before ++ [.literal text]) = arguments.met before := by
  rw [met, List.filterMap_append, List.filterMap_cons_none rfl, List.filterMap_nil, List.append_nil,
    met]

theorem met_missing (h : arguments.hasIndex index = false) :
    arguments.met (before ++ [.placeholder index position]) = arguments.met before := by
  have hindex : [Segment.placeholder index position].filterMap Segment.index? = [index] := rfl
  rw [met, List.filterMap_append, hindex, List.filter_append, List.filter_singleton, h, cond_false,
    List.append_nil, met]

theorem met_present (h : arguments.hasIndex index = true) :
    arguments.met (before ++ [.placeholder index position]) =
      if index ∈ arguments.met before then arguments.met before
      else arguments.met before ++ [index] := by
  have hindex : [Segment.placeholder index position].filterMap Segment.index? = [index] := rfl
  rw [met, List.filterMap_append, hindex, List.filter_append, List.filter_singleton, h, cond_true,
    List.eraseDups_append, met]
  simp only [List.mem_eraseDups]
  split
  · simp_all [List.removeAll]
  · simp_all [List.removeAll, List.eraseDups_cons]

theorem nodup_met (segments : List Segment) : (arguments.met segments).Nodup := by
  induction segments using List.reverseRecOn with
  | nil => exact List.nodup_nil
  | append_singleton before segment ih =>
      cases segment with
      | literal text => rwa [met_literal]
      | placeholder index position =>
          cases hindex : arguments.hasIndex index with
          | false => rwa [met_missing hindex]
          | true =>
              rw [met_present hindex]
              split
              · exact ih
              · rename_i hnew
                refine List.nodup_append.2 ⟨ih, by simp, fun other hmem last hlast heq => hnew ?_⟩
                rwa [← List.mem_singleton.1 hlast, ← heq]

theorem met_prefix (before after : List Segment) :
    arguments.met before <+: arguments.met (before ++ after) := by
  rw [met, met, List.filterMap_append, List.filter_append, List.eraseDups_append]
  exact List.prefix_append _ _

theorem met_of_eachIndex {segments : List Segment}
    (h : Segment.EachIndex (arguments.hasIndex · = true) segments) :
    arguments.met segments = (Template.mk segments).indices := by
  rw [Segment.eachIndex_iff_index?] at h
  rw [met, List.filter_eq_self.2 h, Template.indices]

theorem hasIndex_of_mem_met (h : index ∈ arguments.met before) :
    arguments.hasIndex index = true :=
  (List.mem_filter.1 (List.mem_eraseDups.1 h)).2

end Arguments

/-! ## What is recalled -/

namespace Progress

/-- Whether the recorded calls are those for segments that were rendered before: one call for each
index of an argument among them, and each call was given a text. -/
structure Remembers (arguments : Arguments α) (before : List Segment) (progress : Progress) :
    Prop where
  indices : progress.calls.map Call.index = arguments.met before
  texts : ∀ call ∈ progress.calls, ∃ text, call.answer = .ok text

variable {before : List Segment} {progress : Progress}

theorem remembers_start : start.Remembers arguments [] :=
  ⟨rfl, fun _ hmem => by cases hmem⟩

theorem Remembers.recalled?_isSome (h : progress.Remembers arguments before) {index : Int} :
    (progress.recalled? index).isSome = true ↔ index ∈ arguments.met before := by
  rw [← h.indices, List.mem_map, recalled?, List.findSome?_isSome_iff]
  constructor
  · rintro ⟨call, hmem, hcall⟩
    refine ⟨call, hmem, ?_⟩
    by_contra hne
    rw [if_neg hne] at hcall
    cases hcall
  · rintro ⟨call, hmem, hindex⟩
    obtain ⟨text, hanswer⟩ := h.texts call hmem
    exact ⟨call, hmem, by rw [if_pos hindex, hanswer]; rfl⟩

theorem Remembers.record_indices (h : progress.Remembers arguments before) {index : Int}
    (hindex : arguments.hasIndex index = true) (hnone : progress.recalled? index = none)
    (position : Option Int) (answer : Except Fault LooseText) :
    (progress.record index answer).calls.map Call.index =
      arguments.met (before ++ [.placeholder index position]) := by
  have hnew : index ∉ arguments.met before := by
    rw [← h.recalled?_isSome, hnone]
    exact Bool.false_ne_true
  rw [Arguments.met_present hindex, if_neg hnew, ← h.indices]
  exact List.map_append

theorem Remembers.record (h : progress.Remembers arguments before) {index : Int}
    (hindex : arguments.hasIndex index = true) (hnone : progress.recalled? index = none)
    (position : Option Int) (text : LooseText) :
    ((progress.record index (.ok text)).append text).Remembers arguments
      (before ++ [.placeholder index position]) := by
  refine ⟨h.record_indices hindex hnone position (.ok text), fun call hmem => ?_⟩
  rcases List.mem_append.1 hmem with hmem | hmem
  · exact h.texts call hmem
  · obtain rfl := List.mem_singleton.1 hmem
    exact ⟨text, rfl⟩

/-- One step adds the call for the segment, unless its text is recalled or it has no argument. -/
theorem Remembers.renderSegment (render : Renderer α) (h : progress.Remembers arguments before)
    (segment : Segment) :
    (progress.renderSegment render arguments segment).1.calls.map Call.index =
        arguments.met (before ++ [segment]) ∧
      ((progress.renderSegment render arguments segment).2 = none →
        (progress.renderSegment render arguments segment).1.Remembers arguments
          (before ++ [segment])) := by
  have hsame : arguments.met (before ++ [segment]) = arguments.met before →
      progress.calls.map Call.index = arguments.met (before ++ [segment]) ∧
        ∀ text, (progress.append text).Remembers arguments (before ++ [segment]) :=
    fun hmet => ⟨h.indices.trans hmet.symm, fun text => ⟨h.indices.trans hmet.symm, h.texts⟩⟩
  cases segment with
  | literal text =>
      obtain ⟨hindices, happend⟩ := hsame (Arguments.met_literal text)
      exact ⟨hindices, fun _ => happend text⟩
  | placeholder index position =>
      rw [Progress.renderSegment]
      by_cases hrange : (arguments.size : Int) ≤ index
      · have hmissing : arguments.hasIndex index = false := by
          simp [Arguments.hasIndex, Int.not_lt.2 hrange]
        rw [if_pos hrange]
        exact ⟨(hsame (Arguments.met_missing hmissing)).1, fun hnone => by cases hnone⟩
      rw [if_neg hrange]
      have hhas : arguments.hasIndex index = (arguments.get? index).isSome :=
        Arguments.hasIndex_eq_isSome (Int.not_le.1 hrange)
      cases hrecalled : progress.recalled? index with
      | some text =>
          have hmem := h.recalled?_isSome.1 (Option.isSome_of_eq_some hrecalled)
          have hmet : arguments.met (before ++ [.placeholder index position]) =
              arguments.met before := by
            rw [Arguments.met_present (Arguments.hasIndex_of_mem_met hmem), if_pos hmem]
          obtain ⟨hindices, happend⟩ := hsame hmet
          exact ⟨hindices, fun _ => happend text⟩
      | none =>
          cases hget : arguments.get? index with
          | none =>
              rw [hget, Option.isSome_none] at hhas
              simp only [renderFresh, hget]
              exact ⟨(hsame (Arguments.met_missing hhas)).1, fun hnone => by cases hnone⟩
          | some argument =>
              rw [hget, Option.isSome_some] at hhas
              have hindices := h.record_indices hhas hrecalled position
              simp only [renderFresh, hget]
              cases render argument with
              | ok text => exact ⟨hindices _, fun _ => h.record hhas hrecalled position text⟩
              | error fault => exact ⟨hindices _, fun hnone => by cases hnone⟩

theorem IsFaithful.renderSegment (h : progress.IsFaithful render arguments) (segment : Segment) :
    (progress.renderSegment render arguments segment).1.IsFaithful render arguments := by
  cases segment with
  | literal text => exact h.append text
  | placeholder index position =>
      rw [Progress.renderSegment]
      by_cases hrange : (arguments.size : Int) ≤ index
      · rwa [if_pos hrange]
      rw [if_neg hrange]
      cases progress.recalled? index with
      | some text => exact h.append text
      | none =>
          cases hget : arguments.get? index with
          | none => simpa only [renderFresh, hget] using h
          | some argument =>
              have hrecord := h.record hget
              simp only [renderFresh, hget]
              cases hrender : render argument with
              | ok text =>
                  rw [hrender] at hrecord
                  exact hrecord.append text
              | error fault =>
                  rw [hrender] at hrecord
                  exact hrecord

end Progress

/-! ## Texts one by one -/

namespace Segment

variable {index : Int} (position : Option Int)

theorem rendered_of_nonneg (hnonneg : 0 ≤ index) (hrange : index < arguments.size) :
    ∃ argument, arguments.items[index.toNat]? = some argument ∧
      (placeholder index position).rendered render arguments = render argument := by
  obtain ⟨argument, -, hget⟩ := Arguments.exists_get? hnonneg hrange
  refine ⟨argument, by rw [← Arguments.get?_of_nonneg hnonneg, hget], ?_⟩
  rw [rendered, if_neg (by omega), hget]

theorem rendered_of_neg (hrange : -(arguments.size : Int) ≤ index) (hneg : index < 0) :
    ∃ argument, arguments.items[(arguments.size + index).toNat]? = some argument ∧
      (placeholder index position).rendered render arguments = render argument := by
  have hindex : arguments.hasIndex index = true := Arguments.hasIndex_iff.2 ⟨hrange, by omega⟩
  rw [Arguments.hasIndex_eq_isSome (by omega)] at hindex
  obtain ⟨argument, hget⟩ := Option.isSome_iff_exists.1 hindex
  refine ⟨argument, by rw [← Arguments.get?_of_neg hneg hrange, hget], ?_⟩
  rw [rendered, if_neg (by omega), hget]

theorem rendered_missing (h : index < -(arguments.size : Int)) :
    ∃ fault, (placeholder index position).rendered render arguments = .error fault ∧
      fault.kindName = "IndexError" := by
  rw [rendered, if_neg (by omega), Arguments.get?_eq_none h]
  refine ⟨_, rfl, ?_⟩
  rw [Arguments.absence]
  split <;> rfl

variable {position}

theorem rendered_out_of_range_writable (hrange : arguments.size ≤ index)
    (hindex : Numeral.isWritable index = true)
    (hposition : position.all Numeral.isWritable = true) :
    (placeholder index position).rendered render arguments =
      .error (.format (.indexOutOfRange index arguments.size position)) := by
  rw [rendered_out_of_range hrange, Fault.ofFormatError_indexOutOfRange hindex hrange,
    if_pos hposition]

theorem renderedAll_eq_ok_iff {segments : List Segment} {text : LooseText} :
    renderedAll render arguments segments = .ok text ↔
      ∃ texts : List LooseText, segments.map (rendered render arguments) = texts.map Except.ok ∧
        text = LooseText.join texts := by
  induction segments generalizing text with
  | nil =>
      rw [renderedAll_nil, List.map_nil]
      constructor
      · rintro h
        exact ⟨[], rfl, (Except.ok.inj h).symm⟩
      · rintro ⟨texts, hnil, rfl⟩
        rw [List.map_eq_nil_iff.1 hnil.symm, LooseText.join_nil]
  | cons segment rest ih =>
      cases hsegment : segment.rendered render arguments with
      | error fault =>
          rw [renderedAll_cons_error hsegment]
          constructor
          · intro h
            cases h
          · rintro ⟨texts, htexts, -⟩
            cases texts <;> simp [hsegment] at htexts
      | ok start =>
          rw [renderedAll_cons_ok hsegment]
          constructor
          · intro h
            cases hrest : renderedAll render arguments rest with
            | error fault =>
                rw [hrest] at h
                cases h
            | ok more =>
                rw [hrest] at h
                obtain ⟨texts, htexts, rfl⟩ := ih.1 hrest
                refine ⟨start :: texts, ?_, ?_⟩
                · rw [List.map_cons, List.map_cons, hsegment, htexts]
                · rw [LooseText.join_cons]
                  exact (Except.ok.inj h).symm
          · rintro ⟨texts, htexts, rfl⟩
            cases texts with
            | nil => cases htexts
            | cons first more =>
                rw [List.map_cons, List.map_cons, hsegment] at htexts
                obtain ⟨hfirst, hmore⟩ := List.cons.inj htexts
                obtain rfl := Except.ok.inj hfirst
                rw [ih.2 ⟨more, hmore, rfl⟩, LooseText.join_cons]
                rfl

end Segment

/-! ## Runs -/

namespace Rendering

variable {before segments : List Segment} {progress : Progress}

/-- Segments that are rendered are remembered, and what follows them is rendered after. -/
theorem exists_remembers (h : progress.Remembers arguments before) {text : LooseText}
    (hok : (continueList render arguments progress segments).outcome = .ok text) :
    ∃ further, further.Remembers arguments (before ++ segments) ∧
      ∀ after, continueList render arguments progress (segments ++ after) =
        continueList render arguments further after := by
  induction segments generalizing progress before with
  | nil => exact ⟨progress, by rwa [List.append_nil], fun after => rfl⟩
  | cons segment rest ih =>
      rw [continueList_cons] at hok
      have hstep := (h.renderSegment render segment).2
      cases hsegment : progress.renderSegment render arguments segment with
      | mk next fault =>
          rw [hsegment] at hok hstep
          cases fault with
          | some fault => cases hok
          | none =>
              obtain ⟨further, hfurther, hafter⟩ := ih (hstep rfl) hok
              refine ⟨further, by rwa [List.append_assoc] at hfurther, fun after => ?_⟩
              rw [List.cons_append, continueList_cons, hsegment]
              exact hafter after

/-- A rendering that comes to its end calls the renderer once for each index of an argument. -/
theorem calls_of_ok {text : LooseText}
    (h : (ofSegments render arguments segments).outcome = .ok text) :
    (ofSegments render arguments segments).calls.map Call.index = arguments.met segments := by
  obtain ⟨further, hfurther, hafter⟩ := exists_remembers Progress.remembers_start h
  have hend := hafter []
  rw [List.append_nil] at hend
  rw [ofSegments, hend]
  exact hfurther.indices

/-- A rendering that is stopped calls it for the indices up to that of the segment at fault. -/
theorem calls_of_stopped {segment : Segment} {text : LooseText}
    (h : (ofSegments render arguments before).outcome = .ok text) {problem : Fault}
    (hstop : (ofSegments render arguments (before ++ [segment])).outcome = .error problem) :
    (ofSegments render arguments (before ++ [segment])).calls.map Call.index =
      arguments.met (before ++ [segment]) := by
  obtain ⟨further, hfurther, hafter⟩ := exists_remembers Progress.remembers_start h
  have hstep := (hfurther.renderSegment render segment).1
  rw [ofSegments, hafter, continueList_cons] at hstop ⊢
  cases hsegment : further.renderSegment render arguments segment with
  | mk next fault =>
      rw [hsegment] at hstop hstep
      cases fault with
      | none => cases hstop
      | some fault => exact hstep

/-- Every call that is recorded was a call for the argument at its index. -/
theorem isFaithful_calls (h : progress.IsFaithful render arguments) :
    ∀ call ∈ (continueList render arguments progress segments).calls,
      ∃ argument, arguments.get? call.index = some argument ∧ render argument = call.answer := by
  induction segments generalizing progress with
  | nil => exact h
  | cons segment rest ih =>
      have hstep := h.renderSegment segment
      rw [continueList_cons]
      cases hsegment : progress.renderSegment render arguments segment with
      | mk next fault =>
          rw [hsegment] at hstep
          cases fault with
          | none => exact ih hstep
          | some fault => exact hstep

/-- A rendering is that of every segment, or it ends at the first segment with a fault. -/
theorem ofSegments_cases (render : Renderer α) (arguments : Arguments α)
    (segments : List Segment) :
    (∃ texts : List LooseText,
      segments.map (Segment.rendered render arguments) = texts.map Except.ok ∧
        (ofSegments render arguments segments).outcome = .ok (LooseText.join texts) ∧
        (ofSegments render arguments segments).calls.map Call.index = arguments.met segments) ∨
      ∃ (before : List Segment) (segment : Segment) (after : List Segment) (texts : List LooseText)
          (fault : Fault),
        segments = before ++ segment :: after ∧
          before.map (Segment.rendered render arguments) = texts.map Except.ok ∧
          segment.rendered render arguments = .error fault ∧
          (ofSegments render arguments segments).outcome = .error fault ∧
          (ofSegments render arguments segments).calls.map Call.index =
            arguments.met (before ++ [segment]) := by
  cases houtcome : (ofSegments render arguments segments).outcome with
  | ok text =>
      have hall := houtcome
      rw [ofSegments_outcome] at hall
      obtain ⟨texts, htexts, rfl⟩ := Segment.renderedAll_eq_ok_iff.1 hall
      exact .inl ⟨texts, htexts, rfl, calls_of_ok houtcome⟩
  | error fault =>
      obtain ⟨before, segment, after, rfl, ⟨text, hbefore⟩, hstop⟩ :=
        exists_of_continueList_error render arguments houtcome
      have hends : (ofSegments render arguments (before ++ [segment])).outcome = .error fault :=
        (congrArg outcome hstop).trans houtcome
      have hcalls := calls_of_stopped hbefore hends
      have hall : Segment.renderedAll render arguments before = .ok text := by
        rw [← ofSegments_outcome]
        exact hbefore
      obtain ⟨texts, htexts, -⟩ := Segment.renderedAll_eq_ok_iff.1 hall
      have hsegment : segment.rendered render arguments = .error fault := by
        rw [ofSegments_outcome, Segment.renderedAll_append, hall] at hends
        cases hrendered : segment.rendered render arguments with
        | ok more =>
            rw [Segment.renderedAll_cons_ok hrendered] at hends
            cases hends
        | error problem =>
            rw [Segment.renderedAll_cons_error hrendered] at hends
            exact hends
      exact .inr ⟨before, segment, after, texts, fault, rfl, htexts, hsegment, rfl,
        (congrArg (fun rendering => rendering.calls.map Call.index) hstop).symm.trans hcalls⟩

/-- Rendering comes to what the segments come to one by one: their texts in a row, or the fault of
the first segment that has one.  The renderer is called once for each index of an argument that is
met on the way, in order of first occurrence.  An index that is too large is reported as such unless
a number in the report has too many digits to be written. -/
theorem ofSegments_one_by_one (render : Renderer α) (arguments : Arguments α)
    (segments : List Segment) :
    ((∀ text, (Segment.literal text).rendered render arguments = .ok text) ∧
      ∀ (index : Int) (position : Option Int),
        (0 ≤ index → index < arguments.size → ∃ argument,
          arguments.items[index.toNat]? = some argument ∧
            (Segment.placeholder index position).rendered render arguments = render argument) ∧
        (-(arguments.size : Int) ≤ index → index < 0 → ∃ argument,
          arguments.items[(arguments.size + index).toNat]? = some argument ∧
            (Segment.placeholder index position).rendered render arguments = render argument) ∧
        (arguments.size ≤ index →
          (Segment.placeholder index position).rendered render arguments =
              .error (.ofFormatError (.indexOutOfRange index arguments.size position)) ∧
            (Numeral.isWritable index = true → position.all Numeral.isWritable = true →
              (Segment.placeholder index position).rendered render arguments =
                .error (.format (.indexOutOfRange index arguments.size position)))) ∧
        (index < -(arguments.size : Int) → ∃ fault,
          (Segment.placeholder index position).rendered render arguments = .error fault ∧
            fault.kindName = "IndexError")) ∧
      ((∃ texts : List LooseText,
          segments.map (Segment.rendered render arguments) = texts.map Except.ok ∧
            (ofSegments render arguments segments).outcome = .ok (LooseText.join texts) ∧
            (ofSegments render arguments segments).calls.map Call.index =
              arguments.met segments) ∨
        ∃ (before : List Segment) (segment : Segment) (after : List Segment)
            (texts : List LooseText) (fault : Fault),
          segments = before ++ segment :: after ∧
            before.map (Segment.rendered render arguments) = texts.map Except.ok ∧
            segment.rendered render arguments = .error fault ∧
            (ofSegments render arguments segments).outcome = .error fault ∧
            (ofSegments render arguments segments).calls.map Call.index =
              arguments.met (before ++ [segment])) ∧
      ((ofSegments render arguments segments).calls.map Call.index).Nodup ∧
      (∀ call ∈ (ofSegments render arguments segments).calls, ∃ argument,
        arguments.get? call.index = some argument ∧ render argument = call.answer) ∧
      (Segment.EachIndex (arguments.hasIndex · = true) segments →
        arguments.met segments = (Template.mk segments).indices ∧
          (ofSegments render arguments segments).calls.map Call.index <+:
            (Template.mk segments).indices) := by
  have hcases := ofSegments_cases render arguments segments
  refine ⟨⟨fun text => rfl, fun index position =>
    ⟨Segment.rendered_of_nonneg position, Segment.rendered_of_neg position, fun hrange =>
      ⟨Segment.rendered_out_of_range hrange position,
        Segment.rendered_out_of_range_writable hrange⟩, Segment.rendered_missing position⟩⟩,
    hcases, ?_, isFaithful_calls Progress.isFaithful_start, fun hall =>
      ⟨Arguments.met_of_eachIndex hall, ?_⟩⟩
  · rcases hcases with
      ⟨texts, -, -, hcalls⟩ | ⟨before, segment, after, texts, fault, -, -, -, -, hcalls⟩
    · rw [hcalls]
      exact Arguments.nodup_met segments
    · rw [hcalls]
      exact Arguments.nodup_met _
  · rw [← Arguments.met_of_eachIndex hall]
    rcases hcases with
      ⟨texts, -, -, hcalls⟩ | ⟨before, segment, after, texts, fault, rfl, -, -, -, hcalls⟩
    · exact ⟨[], by rw [List.append_nil, hcalls]⟩
    · have hsplit : before ++ segment :: after = before ++ [segment] ++ after := by simp
      rw [hcalls, hsplit]
      exact Arguments.met_prefix (before ++ [segment]) after

/-- The last argument is found under two indices, so the renderer is called twice for it, but not a
third time. -/
theorem ofSegments_one_by_one_negative :
    ((0 ≤ (1 : Int) ∧ (1 : Int) < (Arguments.ofList ["p", "q"]).size) ∧
        (Segment.placeholder 1 none).rendered (fun s : String => .ok s) (.ofList ["p", "q"]) =
          .ok "q") ∧
      ((-((Arguments.ofList ["p", "q"]).size : Int) ≤ -1 ∧ (-1 : Int) < 0) ∧
        (Segment.placeholder (-1) none).rendered (fun s : String => .ok s) (.ofList ["p", "q"]) =
          .ok "q") ∧
      (((Arguments.ofList ["p", "q"]).size ≤ (7 : Int) ∧ Numeral.isWritable 7 = true) ∧
        (Segment.placeholder 7 (some 9)).rendered (fun s : String => .ok s) (.ofList ["p", "q"]) =
          .error (.format (.indexOutOfRange 7 2 (some 9)))) ∧
      ((-3 : Int) < -((Arguments.ofList ["p", "q"]).size : Int) ∧
        ∃ fault, (Segment.placeholder (-3) none).rendered (fun s : String => .ok s)
          (.ofList ["p", "q"]) = .error fault ∧ fault.kindName = "IndexError") ∧
      Segment.EachIndex ((Arguments.ofList ["p", "q"]).hasIndex · = true)
        [.placeholder (-1) none, .literal "-", .placeholder 1 none, .placeholder (-1) none] ∧
      (ofSegments (fun s : String => .ok s) (.ofList ["p", "q"]) [.placeholder (-1) none,
          .literal "-", .placeholder 1 none, .placeholder (-1) none]).calls.map Call.index <+:
        [-1, 1] := by
  obtain ⟨⟨-, hsegment⟩, -, -, -, htemplate⟩ := ofSegments_one_by_one
    (fun s : String => .ok s) (.ofList ["p", "q"])
    [.placeholder (-1) none, .literal "-", .placeholder 1 none, .placeholder (-1) none]
  have hsize : (Arguments.ofList ["p", "q"]).size = 2 := rfl
  have hseven : Numeral.isWritable 7 = true := by decide +kernel
  have hnine : Numeral.isWritable 9 = true := by decide +kernel
  obtain ⟨front, hfront, hone⟩ := (hsegment 1 none).1 (by decide) (by decide)
  obtain ⟨back, hback, hlast⟩ := (hsegment (-1) none).2.1 (by decide) (by decide)
  obtain rfl : "q" = front := Option.some.inj hfront
  obtain rfl : "q" = back := Option.some.inj hback
  have hall : Segment.EachIndex ((Arguments.ofList ["p", "q"]).hasIndex · = true)
      [.placeholder (-1) none, .literal "-", .placeholder 1 none, .placeholder (-1) none] := by
    simp only [Segment.eachIndex_placeholder, Segment.eachIndex_literal]
    exact ⟨by decide, by decide, by decide, Segment.eachIndex_nil _⟩
  refine ⟨⟨by decide, hone⟩, ⟨by decide, hlast⟩, ⟨⟨by decide, hseven⟩, ?_⟩,
    ⟨by decide, (hsegment (-3) none).2.2.2 (by decide)⟩, hall, (htemplate hall).2⟩
  exact ((hsegment 7 (some 9)).2.2.1 (by decide)).2 hseven
    (Option.all_some.trans hnine)

/-- An index with a digit too many cannot be reported as out of range. -/
theorem index_too_long :
    ((Arguments.ofList ([] : List String)).size : Int) ≤ (10 ^ Numeral.digitLimit : Nat) ∧
      (ofSegments (fun s : String => .ok s) (.ofList [])
        [.placeholder (10 ^ Numeral.digitLimit : Nat) none]).outcome =
          .error .unwritableInteger ∧
      Fault.unwritableInteger.kindName = "ValueError" := by
  have hmissing : ((Arguments.ofList ([] : List String)).size : Int) ≤
      (10 ^ Numeral.digitLimit : Nat) := Int.natCast_nonneg _
  refine ⟨hmissing, ?_, rfl⟩
  rw [ofSegments_outcome, Segment.renderedAll_cons_error (Segment.rendered_out_of_range hmissing _),
    Fault.ofFormatError_unwritable Numeral.not_isWritable_pow]

end Rendering

end Positional
