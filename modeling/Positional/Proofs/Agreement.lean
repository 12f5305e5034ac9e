import Mathlib
import Positional.Proofs.CommandLine.Format
import Positional.Proofs.Feature.Handler
import Positional.Proofs.Rendering.Reported
import Positional.Proofs.Service.Format

/-!
# Three ways to format

A template can be formatted by a call of the handler, by a command, and by a request to the service.
All three come to what formatting the template with the arguments comes to: its text, its format
error, or another fault.  A text with a lone half, which only a literal can bring about, is reported
by the handler but has no bytes to be printed or sent.
-/

namespace Positional

attribute [local instance (high)] instPowNat

/-- The handler, the command and the route agree with the formatter.  A text is reported by the
handler with the number of arguments, and, if it has bytes, printed by the command and carried by
the response; otherwise nothing is printed and there is no response.  A format error becomes a
rejection, an exit code and an error of the client; any other fault ends the call, escapes from the
command and is an error of the server. -/
theorem format_agreement (env : Environment) (template : String) (arguments : List String)
    (typed : Bool) (readFile : String → Except CommandLine.FileFault (List UInt8)) :
    let outcome := (format env template none Value.shown
      (.ofList (Handler.readValues (arguments.map Value.ofString) typed))).result.outcome
    let answer := (Handler.format env
      (.ofFormat template (arguments.map Value.ofString) typed)).result
    let run := CommandLine.run env .shipped readFile
      (CommandLine.formatWords typed template arguments)
    let responds := fun response => ∀ body, Service.Asks body template arguments typed →
      (Service.respond env .shipped ⟨"POST", "/api/v1/format", body⟩).result = .ok response
    (∀ text : String, outcome = .ok text →
        answer = .ok (.outcome (.completed (.formatted text arguments.length))) ∧
          (∃ entries, run = ⟨0, text ++ "\n", entries, none, none⟩) ∧
          (arguments.length < 10 ^ Numeral.digitLimit → responds (.ok
            (.object [("result", .text text), ("arguments", .int arguments.length)])))) ∧
      (∀ text fault, outcome = .ok text → text.encode = .error fault →
        answer = .ok (.outcome (.completed (.formatted text arguments.length))) ∧
          (∃ entries, run = ⟨1, "", entries, some fault, none⟩) ∧
          ∀ body, Service.Asks body template arguments typed → ∃ cause,
            (Service.respond env .shipped ⟨"POST", "/api/v1/format", body⟩).result =
              .error cause) ∧
      (∀ error, outcome = .error (.format error) →
        answer = .ok (.outcome (.rejected error.text (Fault.format error).diagnostics)) ∧
          (∃ entries escaped, run = ⟨1, "", entries, escaped, none⟩ ∧
            (template.length ≤ 10 ^ Numeral.digitLimit → escaped = none)) ∧
          responds (.error 400 error.text (Fault.format error).diagnostics)) ∧
      ∀ fault, outcome = .error fault → (∀ error, fault ≠ .format error) →
        answer = .error fault ∧
          (∃ entries, run = ⟨1, "", entries, some fault, none⟩) ∧
          responds (.error 500 "Internal server error" fault.diagnostics) := by
  have hfound : Registry.shipped.find? "format" = some Feature.format := rfl
  have htotal := Handler.isTotal_shown_readValues arguments typed
  refine ⟨?_, ?_, ?_, ?_⟩
  · intro text htext
    have hanswer := Handler.format_completed htext
    rw [List.length_map] at hanswer
    refine ⟨hanswer, CommandLine.run_formatWords_completed readFile hfound hanswer, ?_⟩
    intro hcount body hbody
    rw [hbody.respond, hanswer]
    exact Service.ofAnswer_formatted text (decide_eq_true hcount)
  · intro text fault htext hfault
    have hanswer := Handler.format_completed htext
    rw [List.length_map] at hanswer
    refine ⟨hanswer, CommandLine.run_formatWords_unencodable readFile hfound hanswer hfault, ?_⟩
    intro body hbody
    rw [hbody.respond, hanswer]
    exact Service.ofAnswer_unencodable hfault arguments.length
  · intro error herror
    have hanswer := Handler.format_rejected herror
    obtain ⟨start, hposition, -⟩ := exists_position_of_format_error htotal herror
    obtain ⟨entries, escaped, hrun, hescaped⟩ :=
      CommandLine.run_formatWords_rejected readFile hfound hanswer
    refine ⟨hanswer, ⟨entries, escaped, hrun, ?_⟩, ?_⟩
    · intro hlength
      apply hescaped
      intro diagnostic hmem
      obtain rfl := List.mem_singleton.1 hmem
      exact FormatError.isPlain_payload (isWritable_of_format_error htotal herror hlength)
    · intro body hbody
      rw [hbody.respond, hanswer]
      exact Service.ofAnswer_rejected (FormatError.text_ne_empty hposition) _
  · intro fault hfault hother
    have hanswer := Handler.format_fault hfault hother
    refine ⟨hanswer, CommandLine.run_formatWords_fault readFile hfound hanswer, ?_⟩
    intro body hbody
    rw [hbody.respond, hanswer]

theorem format_half :
    (format .empty "\x7b0\x7d" none Value.shown
      (.ofList (Handler.readValues (["\"\\ud83d\""].map Value.ofString) true))).result.outcome =
        .ok ⟨[.half 61]⟩ := by
  have hscan : Template.drain (Settings.maxIndex .empty).result ⟨0, "\x7b0\x7d".toList⟩ =
      ⟨[.placeholder 0 (some 0)], none⟩ := by cbv
  have hread : Handler.readValues (["\"\\ud83d\""].map Value.ofString) true =
      [.text ⟨[.half 61]⟩] := by cbv
  rw [format_outcome, Reader.drain_fresh_unset, hscan, hread]
  rfl

/-- Half of a surrogate pair that is spelled as a literal is formatted, but not printed or sent. -/
theorem half_not_printed :
    (format .empty "\x7b0\x7d" none Value.shown
        (.ofList (Handler.readValues (["\"\\ud83d\""].map Value.ofString) true))).result.outcome =
          .ok ⟨[.half 61]⟩ ∧
      (∃ entries, CommandLine.run .empty .shipped (fun _ => .error .missing)
        ["format", "--typed", "--", "\x7b0\x7d", "\"\\ud83d\""] =
          ⟨1, "", entries, some (.unencodable ⟨0, [.half 61]⟩), none⟩) ∧
      ∃ body cause, Service.Asks body "\x7b0\x7d" ["\"\\ud83d\""] true ∧
        (Service.respond .empty .shipped ⟨"POST", "/api/v1/format", body⟩).result =
          .error cause := by
  have hfound : Registry.shipped.find? "format" = some Feature.format := rfl
  have hhandler : Feature.format.handler = Handler.format := rfl
  have hanswer := Handler.format_completed format_half
  have hfault : LooseText.encode ⟨[.half 61]⟩ = .error (.unencodable ⟨0, [.half 61]⟩) := rfl
  have hasks : Service.Asks ("\x7b\"template\":\"\x7b0\x7d\"," ++
      "\"arguments\":[\"\\\"\\\\ud83d\\\"\"],\"typed\":true\x7d").toUTF8.toList
        "\x7b0\x7d" ["\"\\ud83d\""] true := ⟨some true, by cbv, rfl⟩
  obtain ⟨cause, hcause⟩ := Service.ofAnswer_unencodable hfault 1
  refine ⟨format_half, ?_, _, cause, hasks, ?_⟩
  · rw [← hhandler] at hanswer
    have hrun := CommandLine.run_formatWords_unencodable (fun _ => .error .missing) hfound hanswer
      hfault
    exact hrun
  · rw [hasks.respond, hanswer]
    exact hcause

/-- The argument is read and put in, half of a pair has no bytes, a single brace is rejected, and
zeros that are too many end the call. -/
theorem format_agreement_typed :
    ((format ⟨some "9", none, none⟩ "\x7b0\x7d" none Value.shown
          (.ofList (Handler.readValues ([" true"].map Value.ofString) true))).result.outcome =
            .ok "True" ∧
        (∃ entries, CommandLine.run ⟨some "9", none, none⟩ .shipped (fun _ => .error .missing)
          ["format", "--typed", "--", "\x7b0\x7d", " true"] =
            ⟨0, "True\n", entries, none, none⟩) ∧
        [" true"].length < 10 ^ Numeral.digitLimit ∧
        ∃ body, Service.Asks body "\x7b0\x7d" [" true"] true ∧
          (Service.respond ⟨some "9", none, none⟩ .shipped
            ⟨"POST", "/api/v1/format", body⟩).result =
              .ok (.ok (.object [("result", .text "True"), ("arguments", .int 1)]))) ∧
      (LooseText.encode ⟨[.half 61]⟩ = .error (.unencodable ⟨0, [.half 61]⟩) ∧
        ∃ entries, CommandLine.run .empty .shipped (fun _ => .error .missing)
          ["format", "--typed", "--", "\x7b0\x7d", "\"\\ud83d\""] =
            ⟨1, "", entries, some (.unencodable ⟨0, [.half 61]⟩), none⟩) ∧
      ((format ⟨some "9", none, none⟩ "\x7d" none Value.shown
          (.ofList (Handler.readValues (([] : List String).map Value.ofString) false))).result.outcome =
            .error (.format (.unmatchedClosingBrace (some 0))) ∧
        "\x7d".length ≤ 10 ^ Numeral.digitLimit ∧
        ∃ entries, CommandLine.run ⟨some "9", none, none⟩ .shipped (fun _ => .error .missing)
          ["format", "--", "\x7d"] = ⟨1, "", entries, none, none⟩) ∧
      ∃ zeros : String,
        (format .empty zeros none Value.shown
          (.ofList (Handler.readValues (([] : List String).map Value.ofString) false))).result.outcome =
            .error (.unreadableInteger 4301) ∧
        ∃ entries, CommandLine.run .empty .shipped (fun _ => .error .missing)
          ["format", "--", zeros] = ⟨1, "", entries, some (.unreadableInteger 4301), none⟩ := by
  have hceiling : (Settings.maxIndex ⟨some "9", none, none⟩).result = 9 := rfl
  have hpositive : 1 < 10 ^ Numeral.digitLimit := Nat.one_lt_pow (by decide) (by decide)
  refine ⟨?_, ?_, ?_, ?_⟩
  · have hscan : Template.drain 9 ⟨0, "\x7b0\x7d".toList⟩ =
        ⟨[.placeholder 0 (some 0)], none⟩ := by cbv
    have houtcome : (format ⟨some "9", none, none⟩ "\x7b0\x7d" none Value.shown
        (.ofList (Handler.readValues ([" true"].map Value.ofString) true))).result.outcome =
          .ok "True" := by
      rw [format_outcome, Reader.drain_fresh_unset, hceiling, hscan]
      rfl
    have hasks : Service.Asks ("\x7b\"template\":\"\x7b0\x7d\"," ++
        "\"arguments\":[\" true\"],\"typed\":1\x7d").toUTF8.toList "\x7b0\x7d" [" true"] true :=
      ⟨some true, by cbv, rfl⟩
    obtain ⟨-, hrun, hresponds⟩ := (format_agreement ⟨some "9", none, none⟩ "\x7b0\x7d" [" true"]
      true fun _ => .error .missing).1 "True" houtcome
    exact ⟨houtcome, hrun, hpositive, _, hasks, hresponds hpositive _ hasks⟩
  · have hfault : LooseText.encode ⟨[.half 61]⟩ = .error (.unencodable ⟨0, [.half 61]⟩) := rfl
    obtain ⟨-, hrun, -⟩ := (format_agreement .empty _ _ true fun _ => .error .missing).2.1 _ _
      format_half hfault
    exact ⟨hfault, hrun⟩
  · have hscan : Template.drain 9 ⟨0, "\x7d".toList⟩ =
        ⟨[], some (.format (.unmatchedClosingBrace (some 0)))⟩ := by cbv
    have houtcome : (format ⟨some "9", none, none⟩ "\x7d" none Value.shown
        (.ofList (Handler.readValues (([] : List String).map Value.ofString) false))).result.outcome =
          .error (.format (.unmatchedClosingBrace (some 0))) := by
      rw [format_outcome, Reader.drain_fresh_unset, hceiling, hscan]
      rfl
    have hone : "\x7d".length = 1 := rfl
    have hlength : "\x7d".length ≤ 10 ^ Numeral.digitLimit := by omega
    obtain ⟨-, ⟨entries, escaped, hrun, hescaped⟩, -⟩ := (format_agreement
      ⟨some "9", none, none⟩ "\x7d" [] false fun _ => .error .missing).2.2.1 _ houtcome
    rw [hescaped hlength] at hrun
    exact ⟨houtcome, hlength, entries, hrun⟩
  · have hzeros : Template.IsOverlong (Settings.maxIndex .empty).result
        (List.replicate 4301 '0') := Template.isOverlong_zeros _ (by decide)
    have hlength : (List.replicate 4301 '0').length = 4301 := List.length_replicate
    -- the run is only named from here on: nothing may compute with it
    generalize List.replicate 4301 '0' = zeros at hzeros hlength
    refine ⟨String.ofList ('{' :: (zeros ++ ['}'])), ?_⟩
    have houtcome : (format .empty (String.ofList ('{' :: (zeros ++ ['}']))) none Value.shown
        (.ofList (Handler.readValues (([] : List String).map Value.ofString) false))).result.outcome =
          .error (.unreadableInteger 4301) := by
      rw [format_outcome, Reader.drain_fresh_unset, String.toList_ofList,
        Template.drain_rejected (.unreadable hzeros), hlength]
      rfl
    have hother : ∀ error, Fault.unreadableInteger 4301 ≠ .format error := by
      intro error herror
      cases herror
    obtain ⟨-, hrun, -⟩ := (format_agreement .empty _ [] false fun _ => .error .missing).2.2.2 _
      houtcome hother
    exact ⟨houtcome, hrun⟩

end Positional
