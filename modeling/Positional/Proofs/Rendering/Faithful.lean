import Positional.Proofs.Diagnostic
import Positional.Proofs.Rendering.Reported
import Positional.Proofs.Template.PartialRun

/-!
# Format errors and the template

Where every argument has a text, a format error of formatting stands at a brace of the template that
bears it out: at an opening brace if a placeholder is malformed or refers to no argument, at a
closing one if that matches nothing.  An index that is out of range is the one that is spelled
there.  All of this is still told by the payload of the error's diagnostic, zeros included.
-/

namespace Positional

/-- A format error that agrees with what stands in a text at its offset, and with the number of
arguments. -/
inductive FormatError.Reports (text : List Char) (count position : Nat) : FormatError → Prop
  /-- a malformed placeholder, which an opening brace starts -/
  | malformed (flaw : Flaw) (brace : text[position]? = some '{') :
    Reports text count position (.malformed flaw (some position))
  /-- a closing brace that matches nothing -/
  | unmatchedClosingBrace (brace : text[position]? = some '}') :
    Reports text count position (.unmatchedClosingBrace (some position))
  /-- a placeholder that is spelled with the index of no argument -/
  | indexOutOfRange {index : Int} (referred : Template.Refers text position index)
    (missing : count ≤ index) :
    Reports text count position (.indexOutOfRange index count (some position))

theorem Template.Refers.lt_length {text : List Char} {offset : Nat} {index : Int}
    (h : Refers text offset index) : offset < text.length := by
  obtain ⟨digits, rest, hdrop, -⟩ := h
  have hlength := congrArg List.length hdrop
  rw [List.length_drop, List.length_cons] at hlength
  omega

section

variable {text : List Char} {count position : Nat} {error : FormatError}

theorem FormatError.Reports.position_eq (h : error.Reports text count position) :
    error.position = some (position : Int) := by
  cases h <;> rfl

theorem FormatError.Reports.lt_length (h : error.Reports text count position) :
    position < text.length := by
  cases h with
  | malformed flaw brace => exact (List.getElem?_eq_some_iff.1 brace).1
  | unmatchedClosingBrace brace => exact (List.getElem?_eq_some_iff.1 brace).1
  | indexOutOfRange referred missing => exact referred.lt_length

end

/-- The text of an error at an offset is its message followed by the offset. -/
theorem FormatError.text_of_position {error : FormatError} {position : Nat}
    (h : error.position = some (position : Int)) :
    error.text = error.message ++ " (at offset " ++ Nat.repr position ++ ")" := by
  rw [text, h, ← Numeral.text_ofNat]

/-- The names in the payload of an error at an offset: an index and a number of arguments are given
only where an index is out of range. -/
theorem FormatError.names_members_diagnostic {error : FormatError} {position : Int}
    (h : error.position = some position) :
    error.diagnostic.members.map Prod.fst = (["code", "message", "position"] ++
      if (Fault.format error).kindName = "ArgumentIndexOutOfRange" then ["index", "available"]
      else []).map LooseText.ofString := by
  have hposition : error.diagnostic.position = some position := h
  rw [Diagnostic.names_members, hposition]
  cases error <;> rfl

variable {α : Type} {render : Renderer α} {arguments : Arguments α}
variable {env : Environment} {text : String} {maxIndex : Option Int} {error : FormatError}

theorem Reader.refers_of_placeholder_mem {index : Int} {position : Option Int}
    (h : .placeholder index position ∈
      ((Reader.fresh text maxIndex).drain env).result.segments) :
    ∃ start : Nat, position = some (start : Int) ∧
      Template.Refers text.toList start index := by
  rw [drain_fresh_settled env env] at h
  exact ((Template.wellFormed_fresh env text _).placed index position h).2

theorem reports_of_format_error (htotal : render.IsTotal arguments)
    (h : (format env text maxIndex render arguments).result.outcome = .error (.format error)) :
    ∃ position : Nat, error.Reports text.toList arguments.size position := by
  rcases format_error_cases htotal h with hfault | ⟨index, position, hmem, hmissing, rfl, -⟩
  · obtain ⟨start, -, ⟨hbrace, rfl⟩ | ⟨hbrace, flaw, rfl⟩⟩ := Reader.brace_of_drain_fault hfault
    · exact ⟨start, .unmatchedClosingBrace hbrace⟩
    · exact ⟨start, .malformed flaw hbrace⟩
  · obtain ⟨start, rfl, hrefers⟩ := Reader.refers_of_placeholder_mem hmem
    exact ⟨start, .indexOutOfRange hrefers hmissing⟩

/-- A format error of formatting stands at a place in the template that bears it out, and its text
ends in that place.  It is described in the same way by the rejection that it leads to and as a
fault, by one payload; the payload has a position always, an index and a number of arguments exactly
if an index is out of range, and the kind of the error and all its fields can be read back from
it. -/
theorem format_error_faithful (env : Environment) (text : String) (maxIndex : Option Int)
    (render : Renderer α) (arguments : Arguments α) (error : FormatError)
    (htotal : render.IsTotal arguments)
    (h : (format env text maxIndex render arguments).result.outcome = .error (.format error)) :
    ∃ position : Nat, position < text.length ∧ error.position = some (position : Int) ∧
      error.Reports text.toList arguments.size position ∧
      error.text = error.message ++ " (at offset " ++ Nat.repr position ++ ")" ∧
      ∃ members : List (LooseText × Json),
        (Outcome.ofFormatError error).diagnostics.map Diagnostic.payload = [.object members] ∧
        (Fault.format error).diagnostics.map Diagnostic.payload = [.object members] ∧
        members.map Prod.fst = (["code", "message", "position"] ++
          (if (Fault.format error).kindName = "ArgumentIndexOutOfRange" then
            ["index", "available"] else [])).map LooseText.ofString ∧
        ∃ diagnostic, Diagnostic.ofPayload? (.object members) = some diagnostic ∧
          diagnostic.kindName? = some (Fault.format error).kindName ∧
          diagnostic.message = error.message ∧ diagnostic.position = error.position ∧
          diagnostic.index = error.index ∧ diagnostic.available = error.available := by
  obtain ⟨position, hreports⟩ := reports_of_format_error htotal h
  have hposition := hreports.position_eq
  have hlength : position < text.length := String.length_toList ▸ hreports.lt_length
  refine ⟨position, hlength, hposition, hreports, FormatError.text_of_position hposition,
    error.diagnostic.members, rfl, rfl, FormatError.names_members_diagnostic hposition,
    error.diagnostic, Diagnostic.ofPayload?_payload _, Diagnostic.kindName?_diagnostic error,
    rfl, rfl, rfl, rfl⟩

/-- At the start of the template the first argument is missing and none is given: the offset, the
index and the number of arguments are all zero, and all of them are in the payload. -/
theorem format_error_faithful_zero :
    let error := FormatError.indexOutOfRange 0 0 (some 0)
    (Renderer.IsTotal (fun s : String => .ok s) (.ofList []) ∧
        (format .empty "\x7b0\x7d" (some 9) (fun s : String => .ok s) (.ofList [])).result.outcome =
          .error (.format error)) ∧
      ∃ position : Nat, position < "\x7b0\x7d".length ∧ some 0 = some (position : Int) ∧
        error.Reports "\x7b0\x7d".toList 0 position ∧
        error.text = error.message ++ " (at offset " ++ Nat.repr position ++ ")" ∧
        ∃ members : List (LooseText × Json),
          (Outcome.ofFormatError error).diagnostics.map Diagnostic.payload = [.object members] ∧
          (Fault.format error).diagnostics.map Diagnostic.payload = [.object members] ∧
          members.map Prod.fst =
            (["code", "message", "position"] ++ ["index", "available"]).map LooseText.ofString ∧
          ∃ diagnostic, Diagnostic.ofPayload? (.object members) = some diagnostic ∧
            diagnostic.kindName? = some "ArgumentIndexOutOfRange" ∧
            diagnostic.message = error.message ∧ diagnostic.position = some 0 ∧
            diagnostic.index = some 0 ∧ diagnostic.available = some 0 := by
  intro error
  have htotal : Renderer.IsTotal (fun s : String => .ok s) (.ofList []) := fun argument _ =>
    ⟨argument, rfl⟩
  have hceiling : Numeral.isWritable 9 = true := by decide +kernel
  have hscan : Template.drain 9 ⟨0, "\x7b0\x7d".toList⟩ = ⟨[.placeholder 0 (some 0)], none⟩ := by
    cbv
  have hzero : Numeral.isWritable 0 = true := by decide +kernel
  have hmissing : (Segment.placeholder 0 (some 0)).rendered (fun s : String => .ok s)
      (.ofList []) = .error (.format error) :=
    Segment.rendered_out_of_range_writable (by decide) hzero (by rw [Option.all_some, hzero])
  have houtcome : (format .empty "\x7b0\x7d" (some 9) (fun s : String => .ok s)
      (.ofList [])).result.outcome = .error (.format error) := by
    rw [format_given .empty "\x7b0\x7d" hceiling, hscan, Template.Listing.rendered_done,
      Segment.renderedAll_cons_error hmissing]
  exact ⟨⟨htotal, houtcome⟩, format_error_faithful .empty "\x7b0\x7d" (some 9)
    (fun s : String => .ok s) (.ofList []) error htotal houtcome⟩

end Positional
