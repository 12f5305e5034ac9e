import Positional.Proofs.Feature.Handler
import Positional.Proofs.Rendering.Related
import Positional.Proofs.Value.Plain

/-!
# Typed arguments

Reading the arguments changes the texts that are put in for those of them that are texts, and
nothing else.  A call of the format handler is answered with a text whether they are read or not, or
it is rejected in the same words, or it ends with the same fault: there are as many arguments as
before, and each has a text as it had before.
-/

namespace Positional

namespace Literal

def readValue : Value → Value
  | .text s => read s
  | other => other

def shownRead : Renderer Value
  | .text s => (read s).shown
  | other => other.shown

theorem readAll_eq_map (values : List Value) : readAll values = values.map readValue :=
  List.map_congr_left fun value _ => by cases value <;> rfl

theorem shown_readValue (value : Value) : (readValue value).shown = shownRead value := by
  cases value <;> rfl

theorem shownRead_of_not_text {value : Value} (h : ∀ s, value ≠ .text s) :
    shownRead value = value.shown := by
  rw [shownRead]
  exact h

theorem exists_shownRead {value : Value} (h : value.IsPlain) :
    ∃ written, shownRead value = .ok written := by
  by_cases htext : ∃ s, value = .text s
  · obtain ⟨s, rfl⟩ := htext
    exact exists_shown_read s
  · rw [shownRead_of_not_text fun s hs => htext ⟨s, hs⟩]
    exact h.exists_shown

theorem shownRead_eq_shown {value : Value} (h : ∀ s, value = .text s → (read s).shown = .ok s) :
    shownRead value = value.shown := by
  by_cases htext : ∃ s, value = .text s
  · obtain ⟨s, rfl⟩ := htext
    exact h s rfl
  · exact shownRead_of_not_text fun s hs => htext ⟨s, hs⟩

/-- Formatting with arguments that were read is formatting with a renderer that reads them. -/
theorem format_readAll (env : Environment) (text : String) (maxIndex : Option Int)
    (values : List Value) :
    (format env text maxIndex Value.shown (.ofList (readAll values))).result.outcome =
      (format env text maxIndex shownRead (.ofList values)).result.outcome := by
  rw [readAll_eq_map]
  exact format_map (fun value _ => shown_readValue value) env text maxIndex

end Literal

namespace Handler

/-- What the format handler answers a call with plain arguments, read or not.  It completes in both
modes, with the template's segments put together, or is rejected in both with the same error, or
ends in both with the same fault. -/
theorem format_typed (env : Environment) (text : String) {values : List Value}
    (hplain : ∀ value ∈ values, value.IsPlain) :
    (∃ (template : Template) (plain read : LooseText),
        (Template.parse env text none).result = .ok template ∧
          Segment.renderedAll Value.shown (.ofList values) template.segments = .ok plain ∧
          Segment.renderedAll Literal.shownRead (.ofList values) template.segments = .ok read ∧
          (format env (.ofFormat text values false)).result =
            .ok (.outcome (.completed (.formatted plain values.length))) ∧
          (format env (.ofFormat text values true)).result =
            .ok (.outcome (.completed (.formatted read values.length))) ∧
          ((∀ s, .text s ∈ values → (Literal.read s).shown = .ok s) → read = plain)) ∨
      (∃ (error : String) (diagnostics : List Diagnostic), ∀ typed,
        (format env (.ofFormat text values typed)).result =
          .ok (.outcome (.rejected error diagnostics))) ∨
      ∃ fault, ∀ typed, (format env (.ofFormat text values typed)).result = .error fault := by
  have hshown : Renderer.IsTotal Value.shown (.ofList values) := fun value hmem =>
    (hplain value hmem).exists_shown
  have hshownRead : Renderer.IsTotal Literal.shownRead (.ofList values) := fun value hmem =>
    Literal.exists_shownRead (hplain value hmem)
  have htyped : readValues values true = Literal.readAll values := rfl
  have huntyped : readValues values false = values := rfl
  simp only [Bool.forall_bool, format_ofFormat_result, htyped, huntyped, Literal.format_readAll]
  have hrelated := format_isTotal hshown hshownRead env text none
  generalize hone : (Positional.format env text none Value.shown
    (.ofList values)).result.outcome = one at hrelated ⊢
  generalize htwo : (Positional.format env text none Literal.shownRead
    (.ofList values)).result.outcome = two at hrelated ⊢
  cases hrelated with
  | @ok plain read _ =>
      obtain ⟨template, hparse⟩ := exists_parse_of_format hone
      refine .inl ⟨template, plain, read, hparse, (format_of_parse hparse).symm.trans hone,
        (format_of_parse hparse).symm.trans htwo, rfl, rfl, fun hsame => ?_⟩
      have hequal : ∀ value ∈ values, (id value).shown = Literal.shownRead value := by
        intro value hmem
        refine (Literal.shownRead_eq_shown fun s hs => hsame s ?_).symm
        rwa [← hs]
      have hformat := format_map hequal env text none
      rw [List.map_id, hone, htwo] at hformat
      exact (Except.ok.inj hformat).symm
  | @error fault _ hfault =>
      cases hfault
      cases fault with
      | format error => exact .inr (.inl ⟨error.text, [error.diagnostic], rfl, rfl⟩)
      | _ => exact .inr (.inr ⟨_, rfl, rfl⟩)

/-- What looks like a literal is read where it is an argument, but not inside an argument, and a
text that looks like none is put in as it is. -/
theorem format_typed_nested :
    ((∀ value ∈ [.text " true", .list [.text "true"]], Value.IsPlain value) ∧
        (format ⟨some "9", none, none⟩ (.ofFormat "\x7b0\x7d\x7b1\x7d"
            [.text " true", .list [.text "true"]] false)).result =
          .ok (.outcome (.completed (.formatted " true['true']" 2))) ∧
        (format ⟨some "9", none, none⟩ (.ofFormat "\x7b0\x7d\x7b1\x7d"
            [.text " true", .list [.text "true"]] true)).result =
          .ok (.outcome (.completed (.formatted "True['true']" 2)))) ∧
      (∀ value ∈ [.text "p", .text "q"], Value.IsPlain value) ∧
        (∀ s, .text s ∈ [Value.text "p", .text "q"] → (Literal.read s).shown = .ok s) ∧
        (format ⟨some "9", none, none⟩ (.ofFormat "\x7b0\x7d\x7b1\x7d"
            [.text "p", .text "q"] true)).result =
          .ok (.outcome (.completed (.formatted "pq" 2))) := by
  have hscan : Template.drain 9 ⟨0, "\x7b0\x7d\x7b1\x7d".toList⟩ =
      ⟨[.placeholder 0 (some 0), .placeholder 1 (some 3)], none⟩ := by cbv
  have hceiling : (Settings.maxIndex ⟨some "9", none, none⟩).result = 9 := rfl
  have hparse : (Template.parse ⟨some "9", none, none⟩ "\x7b0\x7d\x7b1\x7d" none).result =
      .ok ⟨[.placeholder 0 (some 0), .placeholder 1 (some 3)]⟩ := by
    rw [Template.parse_result, Reader.drain_fresh_unset, hceiling, hscan]
  constructor
  · have hplain : ∀ value ∈ [.text " true", .list [.text "true"]], Value.IsPlain value := by
      simp only [List.mem_cons, List.not_mem_nil, or_false]
      rintro value (rfl | rfl)
      · exact .text _
      · exact .list fun item hmem => List.mem_singleton.1 hmem ▸ .text _
    have huntyped : (format ⟨some "9", none, none⟩ (.ofFormat "\x7b0\x7d\x7b1\x7d"
        [.text " true", .list [.text "true"]] false)).result =
          .ok (.outcome (.completed (.formatted " true['true']" 2))) := by
      rw [format_ofFormat_result, format_of_parse hparse]
      rfl
    refine ⟨hplain, huntyped, ?_⟩
    rcases format_typed ⟨some "9", none, none⟩ "\x7b0\x7d\x7b1\x7d" hplain with
      ⟨template, plain, read, hsame, -, hread, -, htyped, -⟩ | ⟨error, diagnostics, hboth⟩ |
        ⟨fault, hboth⟩
    · obtain rfl := Except.ok.inj (hparse.symm.trans hsame)
      have hwritten : Segment.renderedAll Literal.shownRead
          (.ofList [.text " true", .list [.text "true"]])
          [.placeholder 0 (some 0), .placeholder 1 (some 3)] = .ok "True['true']" := rfl
      obtain rfl := Except.ok.inj (hwritten.symm.trans hread)
      exact htyped
    · cases (hboth false).symm.trans huntyped
    · cases (hboth false).symm.trans huntyped
  · have hplain : ∀ value ∈ [.text "p", .text "q"], Value.IsPlain value := by
      simp only [List.mem_cons, List.not_mem_nil, or_false]
      rintro value (rfl | rfl) <;> exact .text _
    have hkept : ∀ s, .text s ∈ [Value.text "p", .text "q"] →
        (Literal.read s).shown = .ok s := by
      simp only [List.mem_cons, Value.text.injEq, List.not_mem_nil, or_false]
      rintro s (rfl | rfl) <;> rfl
    have huntyped : (format ⟨some "9", none, none⟩ (.ofFormat "\x7b0\x7d\x7b1\x7d"
        [.text "p", .text "q"] false)).result =
          .ok (.outcome (.completed (.formatted "pq" 2))) := by
      rw [format_ofFormat_result, format_of_parse hparse]
      rfl
    refine ⟨hplain, hkept, ?_⟩
    rcases format_typed ⟨some "9", none, none⟩ "\x7b0\x7d\x7b1\x7d" hplain with
      ⟨template, plain, read, -, -, -, hfalse, htrue, hequal⟩ | ⟨error, diagnostics, hboth⟩ |
        ⟨fault, hboth⟩
    · rw [htrue, hequal hkept, ← hfalse]
      exact huntyped
    · cases (hboth false).symm.trans huntyped
    · cases (hboth false).symm.trans huntyped

end Handler

end Positional
