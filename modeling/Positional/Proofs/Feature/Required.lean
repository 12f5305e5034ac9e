import Positional.Proofs.Feature.Handler
import Positional.Proofs.Rendering.Memory

/-!
# How many arguments are enough

The number of arguments that a template asks for is a threshold: with a renderer that always
answers, so many arguments or more are rendered, and fewer are not.  Then the first index out of
range, which need not be the greatest one, is reported, after the indices in front of it were
rendered.  The format handler completes from the number on that the parse handler reports.  A report
names the place of the placeholder too, so a place with too many digits to be written cannot be
reported.
-/

namespace Positional

attribute [local instance (high)] instPowNat

variable {α : Type} {render : Renderer α} {arguments : Arguments α} {template : Template}

/-! ## Rendering -/

/-- A rendering that an index out of range stops has called the renderer for the indices in front of
it. -/
theorem Rendering.ofSegments_stopped (htotal : render.IsTotal arguments) {before : List Segment}
    (hnonneg : Segment.EachIndex (0 ≤ ·) before)
    (hrange : Segment.EachIndex (· < arguments.size) before) {index : Int}
    (hout : arguments.size ≤ index) (position : Option Int) (after : List Segment) :
    (ofSegments render arguments (before ++ .placeholder index position :: after)).outcome =
        .error (.ofFormatError (.indexOutOfRange index arguments.size position)) ∧
      (ofSegments render arguments (before ++ .placeholder index position :: after)).calls.map
        Call.index = (Template.mk before).indices := by
  obtain ⟨text, htext⟩ := ofSegments_in_range htotal hnonneg hrange
  obtain ⟨further, hfurther, hafter⟩ := exists_remembers Progress.remembers_start htext
  have hstop : ofSegments render arguments (before ++ .placeholder index position :: after) =
      stopped further (.ofFormatError (.indexOutOfRange index arguments.size position)) := by
    rw [ofSegments, hafter, continueList_cons, Progress.renderSegment_out_of_range hout]
  -- none of these indices is passed over, so the calls are all that a template of them refers to
  have hindices : Segment.EachIndex (arguments.hasIndex · = true) before := by
    intro other place hmem
    have hlow := hnonneg other place hmem
    have hhigh := hrange other place hmem
    exact Arguments.hasIndex_iff.2 ⟨by omega, hhigh⟩
  rw [hstop]
  exact ⟨rfl, hfurther.indices.trans (Arguments.met_of_eachIndex hindices)⟩

namespace Template

theorem render_of_required_le (htotal : render.IsTotal arguments)
    (hnonneg : Segment.EachIndex (0 ≤ ·) template.segments)
    (hrequired : template.required ≤ arguments.size) :
    ∃ written, (template.render render arguments).outcome = .ok written :=
  Rendering.ofSegments_in_range htotal hnonneg
    ((template.required_le_iff arguments.size).1 hrequired)

/-- With too few arguments the first index that is out of range stops the rendering. -/
theorem exists_of_lt_required (htotal : render.IsTotal arguments)
    (hnonneg : Segment.EachIndex (0 ≤ ·) template.segments)
    (hrequired : arguments.size < template.required) :
    ∃ (before : List Segment) (index : Int) (position : Option Int) (after : List Segment),
      template.segments = before ++ .placeholder index position :: after ∧
        Segment.EachIndex (· < arguments.size) before ∧ arguments.size ≤ index ∧
        (template.render render arguments).outcome =
          .error (.ofFormatError (.indexOutOfRange index arguments.size position)) ∧
        (template.render render arguments).calls.map Call.index = (mk before).indices := by
  obtain ⟨segments⟩ := template
  have hrange : ¬ Segment.EachIndex (· < arguments.size) segments := by
    intro hall
    have hle := (required_le_iff ⟨segments⟩ arguments.size).2 hall
    omega
  obtain ⟨before, index, position, after, rfl, hbefore, hnot⟩ := Segment.exists_first_not hrange
  have hout : arguments.size ≤ index := Int.not_lt.1 hnot
  have hstart : Segment.EachIndex (0 ≤ ·) before := fun other place hmem =>
    hnonneg other place (List.mem_append_left _ hmem)
  exact ⟨before, index, position, after, rfl, hbefore, hout,
    Rendering.ofSegments_stopped htotal hstart hbefore hout position after⟩

theorem render_of_lt_required (htotal : render.IsTotal arguments)
    (hnonneg : Segment.EachIndex (0 ≤ ·) template.segments)
    (hindices : Segment.EachIndex (·.natAbs < 10 ^ Numeral.digitLimit) template.segments)
    (hpositions : Segment.EachPosition (·.natAbs < 10 ^ Numeral.digitLimit) template.segments)
    (hrequired : arguments.size < template.required) :
    ∃ (before : List Segment) (index : Int) (position : Option Int) (after : List Segment),
      template.segments = before ++ .placeholder index position :: after ∧
        Segment.EachIndex (· < arguments.size) before ∧ arguments.size ≤ index ∧
        (template.render render arguments).outcome =
          .error (.format (.indexOutOfRange index arguments.size position)) ∧
        (template.render render arguments).calls.map Call.index = (mk before).indices := by
  obtain ⟨before, index, position, after, hsplit, hbefore, hout, houtcome, hcalls⟩ :=
    exists_of_lt_required htotal hnonneg hrequired
  have hmem : .placeholder index position ∈ template.segments := by
    rw [hsplit]
    exact List.mem_append_right _ List.mem_cons_self
  have hindex := Numeral.isWritable_of_lt _ (hindices index position hmem) (Nat.le_refl _)
  have hposition : position.all Numeral.isWritable = true := by
    cases position with
    | none => rfl
    | some place =>
        rw [Option.all_some]
        exact Numeral.isWritable_of_lt _ (hpositions index place hmem) (Nat.le_refl _)
  refine ⟨before, index, position, after, hsplit, hbefore, hout, ?_, hcalls⟩
  rw [houtcome, Fault.ofFormatError_indexOutOfRange hindex hout, if_pos hposition]

/-- The number of arguments that a template asks for is the least that it can be rendered with. -/
theorem render_ok_iff (htotal : render.IsTotal arguments)
    (hnonneg : Segment.EachIndex (0 ≤ ·) template.segments) :
    (∃ written, (template.render render arguments).outcome = .ok written) ↔
      template.required ≤ arguments.size := by
  refine ⟨?_, render_of_required_le htotal hnonneg⟩
  rintro ⟨written, hwritten⟩
  by_contra hrequired
  obtain ⟨before, index, position, after, -, -, -, hstop, -⟩ :=
    exists_of_lt_required htotal hnonneg (Int.not_le.1 hrequired)
  rw [hwritten] at hstop
  cases hstop

/-- A template that was parsed has indices that can be written, at offsets in the text. -/
theorem placeholder_mem_of_parse {env : Environment} {text : String} {maxIndex : Option Int}
    (h : (parse env text maxIndex).result = .ok template) {index : Int} {position : Option Int}
    (hmem : .placeholder index position ∈ template.segments) :
    0 ≤ index ∧ index.natAbs < 10 ^ Numeral.digitLimit ∧
      ∃ start : Nat, position = some (start : Int) ∧ start < text.length := by
  have hlisted : .placeholder index position ∈
      ((Reader.fresh text maxIndex).drain env).result.segments := by
    rw [parse_eq_ok_iff.1 h]
    exact hmem
  obtain ⟨start, hnonneg, hwritable, hposition, hstart⟩ := Reader.placeholder_mem_drain hlisted
  exact ⟨hnonneg, of_decide_eq_true hwritable, start, hposition, hstart⟩

end Template

/-! ## Handlers -/

namespace Handler

variable {env : Environment} {text : String} {outcome : Outcome}

theorem exists_parse_of_completed
    (h : (parse env (.ofTemplate text)).result = .ok (.outcome outcome))
    (hcompleted : outcome.isCompleted = true) :
    ∃ template, (Template.parse env text none).result = .ok template ∧
      outcome = .completed (.parsed template) := by
  have hparse : (parse env (.ofTemplate text)).result =
      (conclude "Parse" ((Template.parse env text none).result.map Report.parsed)).result := by
    simp only [parse_ofTemplate, parseText, Logged.result_bind]
  rw [hparse] at h
  cases hresult : (Template.parse env text none).result with
  | ok template =>
      rw [hresult] at h
      exact ⟨template, rfl, (Answer.outcome.inj (Except.ok.inj h)).symm⟩
  | error fault =>
      rw [hresult] at h
      cases fault with
      | format error =>
          obtain rfl := Answer.outcome.inj (Except.ok.inj h)
          cases hcompleted
      | _ => cases h

theorem format_completed_iff (values : List Value) (typed : Bool) :
    (∃ outcome, (format env (.ofFormat text values typed)).result = .ok (.outcome outcome) ∧
        outcome.isCompleted = true) ↔
      ∃ written, (Positional.format env text none Value.shown
        (.ofList (readValues values typed))).result.outcome = .ok written := by
  rw [format_ofFormat_result]
  cases (Positional.format env text none Value.shown
      (.ofList (readValues values typed))).result.outcome with
  | ok written => exact ⟨fun _ => ⟨written, rfl⟩, fun _ => ⟨_, rfl, rfl⟩⟩
  | error fault =>
      constructor
      · rintro ⟨outcome, hresult, hcompleted⟩
        cases fault with
        | format error =>
            obtain rfl := Answer.outcome.inj (Except.ok.inj hresult)
            cases hcompleted
        | _ => cases hresult
      · rintro ⟨written, hwritten⟩
        cases hwritten

theorem data?_parsed_required (template : Template) :
    (Outcome.completed (.parsed template)).data?.bind (Json.member? "required_arguments") =
      some (.int template.required) := rfl

end Handler

/-- A template of indices that are not negative, such as one that was parsed, is rendered by a
renderer that always answers exactly if there are as many arguments as it asks for.  With fewer, and
if its indices and places can be written, the first index out of range is reported with its place
and the number of arguments, after the distinct indices in front of it were rendered.  So where the
parse handler reports a number of arguments, the format handler completes from that number on. -/
theorem required_is_threshold {α : Type} :
    (∀ (env : Environment) (text : String) (maxIndex : Option Int) (template : Template),
      (Template.parse env text maxIndex).result = .ok template →
        ∀ (index : Int) (position : Option Int), .placeholder index position ∈ template.segments →
          0 ≤ index ∧ index.natAbs < 10 ^ Numeral.digitLimit ∧
            ∃ start : Nat, position = some (start : Int) ∧ start < text.length) ∧
      (∀ template : Template, Segment.EachIndex (0 ≤ ·) template.segments →
        ∀ (render : Renderer α) (arguments : Arguments α), render.IsTotal arguments →
          ((∃ written, (template.render render arguments).outcome = .ok written) ↔
              template.required ≤ arguments.size) ∧
            (Segment.EachIndex (·.natAbs < 10 ^ Numeral.digitLimit) template.segments →
              Segment.EachPosition (·.natAbs < 10 ^ Numeral.digitLimit) template.segments →
              arguments.size < template.required →
              ∃ (before : List Segment) (index : Int) (position : Option Int)
                  (after : List Segment),
                template.segments = before ++ .placeholder index position :: after ∧
                  Segment.EachIndex (· < arguments.size) before ∧ arguments.size ≤ index ∧
                  (template.render render arguments).outcome =
                    .error (.format (.indexOutOfRange index arguments.size position)) ∧
                  (template.render render arguments).calls.map Call.index =
                    (Template.mk before).indices)) ∧
      ∀ (env : Environment) (text : String) (outcome : Outcome),
        (Handler.parse env (.ofTemplate text)).result = .ok (.outcome outcome) →
          outcome.isCompleted = true →
          ∃ count : Int,
            outcome.data?.bind (Json.member? "required_arguments") = some (.int count) ∧
              ∀ (arguments : List String) (typed : Bool),
                (∃ other, (Handler.format env
                    (.ofFormat text (arguments.map Value.ofString) typed)).result =
                      .ok (.outcome other) ∧ other.isCompleted = true) ↔
                  count ≤ arguments.length := by
  refine ⟨fun env text maxIndex template hparse index position =>
    Template.placeholder_mem_of_parse hparse, fun template hnonneg render arguments htotal =>
    ⟨Template.render_ok_iff htotal hnonneg, Template.render_of_lt_required htotal hnonneg⟩, ?_⟩
  intro env text outcome hresult hcompleted
  obtain ⟨template, hparse, rfl⟩ := Handler.exists_parse_of_completed hresult hcompleted
  refine ⟨template.required, Handler.data?_parsed_required template, fun arguments typed => ?_⟩
  have hnonneg : Segment.EachIndex (0 ≤ ·) template.segments := fun index position hmem =>
    (Template.placeholder_mem_of_parse hparse hmem).1
  have hlength := Handler.readValues_texts_length arguments typed
  have hvalues :=
    Template.render_ok_iff (Handler.isTotal_shown_readValues arguments typed) hnonneg
  rw [Template.render, Rendering.ofSegments_outcome] at hvalues
  rw [Handler.format_completed_iff, format_of_parse hparse, hvalues, Arguments.size,
    Arguments.ofList, hlength]

/-- Of two indices out of range the first is reported, though the second one is greater, and an
index that nothing refers to is counted all the same. -/
theorem required_is_threshold_gap :
    (Segment.EachIndex (0 ≤ ·)
          [.placeholder 1 none, .placeholder 7 (some 3), .placeholder 9 none] ∧
        Segment.EachIndex (·.natAbs < 10 ^ Numeral.digitLimit)
          [.placeholder 1 none, .placeholder 7 (some 3), .placeholder 9 none] ∧
        Segment.EachPosition (·.natAbs < 10 ^ Numeral.digitLimit)
          [.placeholder 1 none, .placeholder 7 (some 3), .placeholder 9 none] ∧
        Renderer.IsTotal (fun s : String => .ok s) (.ofList ["p", "q"]) ∧
        (Arguments.ofList ["p", "q"]).size < (Template.mk
          [.placeholder 1 none, .placeholder 7 (some 3), .placeholder 9 none]).required ∧
        ∃ (before : List Segment) (index : Int) (position : Option Int) (after : List Segment),
          [.placeholder 1 none, .placeholder 7 (some 3), .placeholder 9 none] =
              before ++ .placeholder index position :: after ∧
            Segment.EachIndex (· < (Arguments.ofList ["p", "q"]).size) before ∧
            (Arguments.ofList ["p", "q"]).size ≤ index ∧
            ((Template.mk [.placeholder 1 none, .placeholder 7 (some 3), .placeholder 9 none]).render
                (fun s : String => .ok s) (.ofList ["p", "q"])).outcome = .error
              (.format (.indexOutOfRange index (Arguments.ofList ["p", "q"]).size position)) ∧
            ((Template.mk [.placeholder 1 none, .placeholder 7 (some 3), .placeholder 9 none]).render
                (fun s : String => .ok s) (.ofList ["p", "q"])).calls.map Call.index =
              (Template.mk before).indices) ∧
      ((Template.parse ⟨some "9", none, none⟩ "\x7b1\x7d\x7b3\x7d" none).result =
          .ok ⟨[.placeholder 1 (some 0), .placeholder 3 (some 3)]⟩ ∧
        ∃ start : Nat, (some 3 : Option Int) = some (start : Int) ∧
          start < "\x7b1\x7d\x7b3\x7d".length) ∧
      (Handler.parse ⟨some "9", none, none⟩ (.ofTemplate "\x7b1\x7d\x7b3\x7d")).result =
          .ok (.outcome (.completed
            (.parsed ⟨[.placeholder 1 (some 0), .placeholder 3 (some 3)]⟩))) ∧
        ∀ (arguments : List String) (typed : Bool),
          (∃ other, (Handler.format ⟨some "9", none, none⟩ (.ofFormat "\x7b1\x7d\x7b3\x7d"
              (arguments.map Value.ofString) typed)).result = .ok (.outcome other) ∧
              other.isCompleted = true) ↔ (4 : Int) ≤ arguments.length := by
  obtain ⟨hparsed, hrendered, hhandled⟩ := required_is_threshold (α := String)
  have hone : (1 : Int).natAbs < 10 ^ Numeral.digitLimit := by decide +kernel
  have hseven : (7 : Int).natAbs < 10 ^ Numeral.digitLimit := by decide +kernel
  have hnine : (9 : Int).natAbs < 10 ^ Numeral.digitLimit := by decide +kernel
  have hnonneg : Segment.EachIndex (0 ≤ ·)
      [.placeholder 1 none, .placeholder 7 (some 3), .placeholder 9 none] := by
    simp
  have hwritable : Segment.EachIndex (·.natAbs < 10 ^ Numeral.digitLimit)
      [.placeholder 1 none, .placeholder 7 (some 3), .placeholder 9 none] := by
    simp only [Segment.eachIndex_placeholder]
    exact ⟨hone, hseven, hnine, Segment.eachIndex_nil _⟩
  have hpositions : Segment.EachPosition (·.natAbs < 10 ^ Numeral.digitLimit)
      [.placeholder 1 none, .placeholder 7 (some 3), .placeholder 9 none] := by
    intro index position hmem
    obtain ⟨rfl, rfl⟩ : index = 7 ∧ position = 3 := by simpa using hmem
    decide +kernel
  have htotal : Renderer.IsTotal (fun s : String => .ok s) (.ofList ["p", "q"]) :=
    fun argument _ => ⟨argument, rfl⟩
  have hfew : (Arguments.ofList ["p", "q"]).size < (Template.mk
      [.placeholder 1 none, .placeholder 7 (some 3), .placeholder 9 none]).required := by decide
  have hscan : Template.drain 9 ⟨0, "\x7b1\x7d\x7b3\x7d".toList⟩ =
      ⟨[.placeholder 1 (some 0), .placeholder 3 (some 3)], none⟩ := by cbv
  have hceiling : (Settings.maxIndex ⟨some "9", none, none⟩).result = 9 := rfl
  have hparse : (Template.parse ⟨some "9", none, none⟩ "\x7b1\x7d\x7b3\x7d" none).result =
      .ok ⟨[.placeholder 1 (some 0), .placeholder 3 (some 3)]⟩ := by
    rw [Template.parse_result, Reader.drain_fresh_unset, hceiling, hscan]
  have hhandler :
      (Handler.parse ⟨some "9", none, none⟩ (.ofTemplate "\x7b1\x7d\x7b3\x7d")).result =
        .ok (.outcome (.completed
          (.parsed ⟨[.placeholder 1 (some 0), .placeholder 3 (some 3)]⟩))) := by
    exact Handler.parse_completed hparse
  obtain ⟨count, hcount, hcompletes⟩ := hhandled _ _ _ hhandler rfl
  obtain rfl : 4 = count := Json.int.inj (Option.some.inj hcount)
  exact ⟨⟨hnonneg, hwritable, hpositions, htotal, hfew,
      (hrendered ⟨_⟩ hnonneg _ _ htotal).2 hwritable hpositions hfew⟩,
    ⟨hparse, (hparsed _ _ _ _ hparse 3 (some 3) (by simp)).2.2⟩, hhandler, hcompletes⟩

/-- A place with a digit too many keeps the missing argument from being reported. -/
theorem position_too_long :
    Segment.EachIndex (0 ≤ ·) [.placeholder 0 (some (10 ^ Numeral.digitLimit : Nat))] ∧
      Segment.EachIndex (·.natAbs < 10 ^ Numeral.digitLimit)
        [.placeholder 0 (some (10 ^ Numeral.digitLimit : Nat))] ∧
      Renderer.IsTotal (fun s : String => .ok s) (.ofList []) ∧
      (Template.mk [.placeholder 0 (some (10 ^ Numeral.digitLimit : Nat))]).required = 1 ∧
      ((Template.mk [.placeholder 0 (some (10 ^ Numeral.digitLimit : Nat))]).render
        (fun s : String => .ok s) (.ofList [])).outcome = .error .unwritableInteger ∧
      Fault.unwritableInteger.kindName = "ValueError" := by
  have hzero : (0 : Int).natAbs < 10 ^ Numeral.digitLimit := Nat.pow_pos (by decide)
  have hmissing : (Arguments.ofList ([] : List String)).size ≤ (0 : Int) := Int.le_refl 0
  refine ⟨Segment.eachIndex_placeholder.2 ⟨Int.le_refl 0, Segment.eachIndex_nil _⟩,
    Segment.eachIndex_placeholder.2 ⟨hzero, Segment.eachIndex_nil _⟩,
    fun argument _ => ⟨argument, rfl⟩, rfl, ?_, rfl⟩
  rw [Template.render, Rendering.ofSegments_outcome,
    Segment.renderedAll_cons_error (Segment.rendered_out_of_range hmissing _),
    Fault.ofFormatError_indexOutOfRange (decide_eq_true hzero) hmissing, Option.all_some,
    Numeral.not_isWritable_pow]
  rfl

end Positional
