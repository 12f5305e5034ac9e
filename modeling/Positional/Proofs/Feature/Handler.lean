import Positional.Feature.Handler
import Positional.Proofs.Literal
import Positional.Proofs.Rendering.Total
import Positional.Proofs.Template.Overlong

/-!
# When a handler answers

A template text is parsed or formatted to an outcome unless the scan comes upon a run of digits that
is too long to be read.  Only then does a call end with a fault of its own.
-/

namespace Positional

attribute [local instance (high)] instPowNat

namespace Handler

/-- Whether a call of a handler ended with an outcome. -/
def Answers (result : Except Fault Answer) : Prop :=
  ∃ outcome, result = .ok (.outcome outcome)

theorem answers_conclude_ok (subject : String) (report : Report) :
    Answers (conclude subject (.ok report)).result :=
  ⟨.completed report, rfl⟩

theorem answers_conclude_format (subject : String) (error : FormatError) :
    Answers (conclude subject (.error (.format error))).result :=
  ⟨.ofFormatError error, rfl⟩

theorem answers_conclude_templateFault (subject : String) {fault : Fault}
    (h : fault.isTemplateFault = true) : Answers (conclude subject (.error fault)).result := by
  cases fault with
  | format error => exact answers_conclude_format subject error
  | _ => cases h

theorem not_answers_error (fault : Fault) : ¬ Answers (.error fault) := by
  rintro ⟨outcome, h⟩
  cases h

/-! ## Parsing -/

variable {env : Environment} {text : String} {run : List Char}

theorem parse_ofTemplate (env : Environment) (text : String) :
    parse env (.ofTemplate text) = parseText env text := by
  simp only [parse, Keywords.ofTemplate, LooseText.encode_ofString]

theorem parse_result_overlong
    (h : Template.Overlong (Settings.maxIndex env).result text.toList run) :
    (parse env (.ofTemplate text)).result = .error (.unreadableInteger run.length) := by
  have hparse : (Template.parse env text none).result =
      .error (.unreadableInteger run.length) := by
    rw [Template.parse_eq_error_iff, Reader.drain_fresh_unset]
    exact Template.drain_fault_overlong h
  simp only [parse_ofTemplate, parseText, Logged.result_bind, hparse]
  rfl

theorem parse_completed {template : Template}
    (h : (Template.parse env text none).result = .ok template) :
    (parse env (.ofTemplate text)).result = .ok (.outcome (.completed (.parsed template))) := by
  simp only [parse_ofTemplate, parseText, Logged.result_bind, h]
  rfl

theorem parse_rejected {error : FormatError}
    (h : (Template.parse env text none).result = .error (.format error)) :
    (parse env (.ofTemplate text)).result =
      .ok (.outcome (.rejected error.text [error.diagnostic])) := by
  simp only [parse_ofTemplate, parseText, Logged.result_bind, h]
  rfl

theorem answers_parse
    (h : ∀ run, ¬ Template.Overlong (Settings.maxIndex env).result text.toList run) :
    Answers (parse env (.ofTemplate text)).result := by
  have hfaults := (Template.drain_isTemplateFault_iff _ _).2 h
  simp only [parse_ofTemplate, parseText, Logged.result_bind, Template.parse_result,
    Reader.drain_fresh_unset]
  generalize Template.drain _ _ = listing at hfaults
  obtain ⟨segments, fault⟩ := listing
  cases fault with
  | none => exact answers_conclude_ok "Parse" _
  | some fault => exact answers_conclude_templateFault "Parse" (hfaults fault rfl)

/-! ## Formatting -/

/-- The values that arguments stand for: themselves, or what is read from them. -/
def readValues (values : List Value) (typed : Bool) : List Value :=
  if typed then Literal.readAll values else values

theorem readValues_length (values : List Value) (typed : Bool) :
    (readValues values typed).length = values.length := by
  cases typed with
  | false => rfl
  | true => exact Literal.readAll_length values

theorem readValues_texts_length (arguments : List String) (typed : Bool) :
    (readValues (arguments.map Value.ofString) typed).length = arguments.length := by
  rw [readValues_length, List.length_map]

theorem isTotal_shown_readValues (arguments : List String) (typed : Bool) :
    Renderer.IsTotal Value.shown (.ofList (readValues (arguments.map Value.ofString) typed)) := by
  intro value hmem
  have hmem : value ∈ readValues (arguments.map Value.ofString) typed := hmem
  cases typed with
  | false =>
      obtain ⟨written, -, rfl⟩ := List.mem_map.1 hmem
      exact ⟨written, rfl⟩
  | true =>
      simp only [readValues, if_true, Literal.readAll, List.map_map] at hmem
      obtain ⟨written, -, rfl⟩ := List.mem_map.1 hmem
      exact Literal.exists_shown_read written

theorem argumentValues_ofFormat (template : String) (values : List Value) (typed : Bool) :
    argumentValues (.ofFormat template values typed) = .ok (readValues values typed) := by
  cases values with
  | nil => cases typed <;> rfl
  | cons first rest => cases typed <;> rfl

/-- A call with a template text and a list of arguments formats the text with the values read. -/
theorem format_ofFormat (env : Environment) (text : String) (values : List Value) (typed : Bool) :
    format env (.ofFormat text values typed) =
      formatValues env text (readValues values typed) := by
  have hvalues := argumentValues_ofFormat text values typed
  simp only [Keywords.ofFormat] at hvalues
  simp only [format, Keywords.ofFormat, hvalues, LooseText.encode_ofString]

/-- A call with a template text and a list of arguments ends as formatting does. -/
theorem format_ofFormat_result (env : Environment) (text : String) (values : List Value)
    (typed : Bool) :
    (format env (.ofFormat text values typed)).result =
      (conclude "Format" ((Positional.format env text none Value.shown
        (.ofList (readValues values typed))).result.outcome.map fun written =>
          .formatted written values.length)).result := by
  simp only [format_ofFormat, formatValues, Logged.result_bind, readValues_length]

section

variable {values : List Value} {typed : Bool}

theorem format_completed {written : LooseText}
    (h : (Positional.format env text none Value.shown
      (.ofList (readValues values typed))).result.outcome = .ok written) :
    (format env (.ofFormat text values typed)).result =
      .ok (.outcome (.completed (.formatted written values.length))) := by
  rw [format_ofFormat_result, h]
  rfl

theorem format_rejected {error : FormatError}
    (h : (Positional.format env text none Value.shown
      (.ofList (readValues values typed))).result.outcome = .error (.format error)) :
    (format env (.ofFormat text values typed)).result =
      .ok (.outcome (.rejected error.text (Fault.format error).diagnostics)) := by
  rw [format_ofFormat_result, h]
  rfl

theorem format_fault {fault : Fault}
    (h : (Positional.format env text none Value.shown
      (.ofList (readValues values typed))).result.outcome = .error fault)
    (hother : ∀ error, fault ≠ .format error) :
    (format env (.ofFormat text values typed)).result = .error fault := by
  rw [format_ofFormat_result, h]
  cases fault with
  | format error => exact absurd rfl (hother error)
  | _ => rfl

end

variable {arguments : List String} {typed : Bool}

/-- Where every index is in range, the scan goes on to an overlong run, and the call ends. -/
theorem format_result_overlong
    (h : Template.Overlong (Settings.maxIndex env).result text.toList run)
    (hrange : Segment.EachIndex (· < arguments.length)
      ((Reader.fresh text none).drain env).result.segments) :
    (format env (.ofFormat text (arguments.map Value.ofString) typed)).result =
      .error (.unreadableInteger run.length) := by
  have hfault := Template.drain_fault_overlong h
  rw [← readValues_texts_length arguments typed] at hrange
  rw [format_ofFormat_result]
  rcases format_in_range (isTotal_shown_readValues arguments typed) hrange with
    ⟨hend, -⟩ | ⟨fault, hdrain, houtcome⟩
  · rw [Reader.drain_fresh_unset, hfault] at hend
    cases hend
  · rw [Reader.drain_fresh_unset, hfault] at hdrain
    obtain rfl := Option.some.inj hdrain
    rw [houtcome]
    rfl

theorem answers_format
    (h : ∀ run, Template.Overlong (Settings.maxIndex env).result text.toList run →
      ¬ Segment.EachIndex (· < arguments.length)
        ((Reader.fresh text none).drain env).result.segments) :
    Answers (format env (.ofFormat text (arguments.map Value.ofString) typed)).result ∨
      10 ^ Numeral.digitLimit < text.length ∧
        (format env (.ofFormat text (arguments.map Value.ofString) typed)).result =
          .error .unwritableInteger := by
  rw [format_ofFormat_result]
  have htotal := isTotal_shown_readValues arguments typed
  rw [← readValues_texts_length arguments typed] at h
  by_cases hrange : Segment.EachIndex (· < (readValues (arguments.map Value.ofString) typed).length)
    ((Reader.fresh text none).drain env).result.segments
  · left
    rcases format_in_range htotal hrange with ⟨-, written, houtcome⟩ | ⟨fault, hdrain, houtcome⟩
    · rw [houtcome]
      exact answers_conclude_ok "Format" _
    · have hfaults := (Template.drain_isTemplateFault_iff _ _).2 fun run hrun => h run hrun hrange
      rw [Reader.drain_fresh_unset] at hdrain
      rw [houtcome]
      exact answers_conclude_templateFault "Format" (hfaults fault hdrain)
  · rcases format_out_of_range htotal hrange with ⟨error, houtcome⟩ | ⟨hlong, houtcome⟩
    · rw [houtcome]
      exact .inl (answers_conclude_format "Format" error)
    · rw [houtcome]
      exact .inr ⟨hlong, rfl⟩

/-! ## Exactly the overlong runs -/

/-- The faults of a scan are those of the template, and the handlers answer, exactly if the scan
comes upon no overlong run.  Where it does, draining, parsing and formatting end with the fault of
reading the run, unless an index out of range ended formatting before.  The one other fault of
formatting is that such an index stands at an offset too large to be written. -/
theorem answers_iff_not_overlong (env : Environment) (text : String) :
    ((∀ fault, ((Reader.fresh text none).drain env).result.fault = some fault →
          fault.isTemplateFault = true) ↔
        ∀ run, ¬ Template.Overlong (Settings.maxIndex env).result text.toList run) ∧
      (Answers (parse env (.ofTemplate text)).result ↔
        ∀ run, ¬ Template.Overlong (Settings.maxIndex env).result text.toList run) ∧
      (∀ run, Template.Overlong (Settings.maxIndex env).result text.toList run →
        ((Reader.fresh text none).drain env).result.fault =
            some (.unreadableInteger run.length) ∧
          (parse env (.ofTemplate text)).result = .error (.unreadableInteger run.length)) ∧
      ∀ (arguments : List String) (typed : Bool),
        (∀ run, Template.Overlong (Settings.maxIndex env).result text.toList run →
          Segment.EachIndex (· < arguments.length)
            ((Reader.fresh text none).drain env).result.segments →
          (format env (.ofFormat text (arguments.map Value.ofString) typed)).result =
            .error (.unreadableInteger run.length)) ∧
        ((∀ run, Template.Overlong (Settings.maxIndex env).result text.toList run →
            ¬ Segment.EachIndex (· < arguments.length)
              ((Reader.fresh text none).drain env).result.segments) →
          Answers (format env (.ofFormat text (arguments.map Value.ofString) typed)).result ∨
            10 ^ Numeral.digitLimit < text.length ∧
              (format env (.ofFormat text (arguments.map Value.ofString) typed)).result =
                .error .unwritableInteger) := by
  refine ⟨?_, ⟨?_, answers_parse⟩, ?_, ?_⟩
  · rw [Reader.drain_fresh_unset]
    exact Template.drain_isTemplateFault_iff _ _
  · rintro hanswers run hrun
    rw [parse_result_overlong hrun] at hanswers
    exact not_answers_error _ hanswers
  · intro run hrun
    rw [Reader.drain_fresh_unset]
    exact ⟨Template.drain_fault_overlong hrun, parse_result_overlong hrun⟩
  · intro arguments typed
    exact ⟨fun run hrun hrange => format_result_overlong hrun hrange, answers_format⟩

/-- One zero more than can be read denotes zero, an index that the ceiling allows, but is refused
as a number that is too long. -/
theorem zeros_not_answered :
    ((Reader.fresh (String.ofList ('{' :: (List.replicate 4301 '0' ++ ['}']))) none).drain
        .empty).result = ⟨[], some (.unreadableInteger 4301)⟩ ∧
      (parse .empty (.ofTemplate
          (String.ofList ('{' :: (List.replicate 4301 '0' ++ ['}']))))).result =
        .error (.unreadableInteger 4301) ∧
      ∀ typed, (format .empty (.ofFormat
          (String.ofList ('{' :: (List.replicate 4301 '0' ++ ['}']))) [] typed)).result =
        .error (.unreadableInteger 4301) := by
  have hzeros : Template.IsOverlong (Settings.maxIndex .empty).result
      (List.replicate 4301 '0') := Template.isOverlong_zeros _ (by decide)
  have hlength : (List.replicate 4301 '0').length = 4301 := List.length_replicate
  -- the run is only named from here on: nothing may compute with it
  generalize List.replicate 4301 '0' = zeros at hzeros hlength ⊢
  generalize htemplate : String.ofList ('{' :: (zeros ++ ['}'])) = template
  have htext : template.toList = '{' :: (zeros ++ '}' :: []) := by
    rw [← htemplate, String.toList_ofList]
  have hoverlong : Template.Overlong (Settings.maxIndex .empty).result template.toList zeros :=
    ⟨[], [], ⟨⟨[], rfl, by simp⟩⟩, htext, hzeros⟩
  have hdrain : ((Reader.fresh template none).drain .empty).result =
      ⟨[], some (.unreadableInteger 4301)⟩ := by
    rw [Reader.drain_fresh_unset, htext, Template.drain_rejected (.unreadable hzeros), hlength]
  refine ⟨hdrain, ?_, fun typed => ?_⟩
  · rw [parse_result_overlong hoverlong, hlength]
  · have hrange : Segment.EachIndex (· < ([] : List String).length)
        ((Reader.fresh template none).drain .empty).result.segments := by
      rw [hdrain]
      exact Segment.eachIndex_nil _
    have hresult : (format .empty (.ofFormat template (([] : List String).map Value.ofString)
        typed)).result = .error (.unreadableInteger zeros.length) :=
      format_result_overlong hoverlong hrange
    rw [← hlength]
    exact hresult

end Handler

end Positional
