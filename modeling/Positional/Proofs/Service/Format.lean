import Positional.Proofs.Json.Published
import Positional.Service.Basic

/-!
# Responses of the format route

A request that can be read is answered by the feature of that name: its report is published, its
rejection is the client's error, and a fault of it the server's.  There is no response where the
text of the report has no bytes.
-/

namespace Positional.Service

variable {env : Environment} {registry : Registry} {found : Feature} {body : List UInt8}

theorem withoutPrivate_formatted {text : LooseText} {count : Nat} :
    (Report.formatted text count).data.withoutPrivate = (Report.formatted text count).data := rfl

theorem isWhole_print_formatted {text : LooseText} {count : Nat} :
    (Report.formatted text count).data.print.IsWhole ↔ text.IsWhole := by
  simp [Report.data, Json.print, Json.printMembers]

theorem publish_formatted (text : String) {count : Nat} (hcount : Numeral.isWritable count = true) :
    (Report.formatted text count).data.publish = .ok (Report.formatted text count).data := by
  have hnumbers : (Report.formatted text count).data.numberFault? = none := by
    simp [Report.data, Json.numberFault?, Json.membersFault?, hcount]
  have hwhole : (Report.formatted text count).data.print.IsWhole :=
    isWhole_print_formatted.2 (LooseText.isWhole_ofString text)
  obtain ⟨shown, hshown⟩ := LooseText.exists_encode_iff.2 hwhole
  simp only [Json.publish, withoutPrivate_formatted, hnumbers, hshown]
  rfl

theorem publish_unencodable {text : LooseText} {cause : Fault} (h : text.encode = .error cause)
    (count : Nat) : ∃ fault, (Report.formatted text count).data.publish = .error fault := by
  have hnot : ¬ text.IsWhole := by
    rw [← LooseText.exists_encode_iff, h]
    simp
  simp only [Json.publish, withoutPrivate_formatted]
  split
  · exact ⟨_, rfl⟩
  · cases hprint : (Report.formatted text count).data.print.encode with
    | ok shown =>
        exact (hnot (isWhole_print_formatted.1
          (LooseText.exists_encode_iff.1 ⟨shown, hprint⟩))).elim
    | error fault => exact ⟨fault, rfl⟩

theorem respond_format (env : Environment) (registry : Registry) {request : FormatRequest}
    (h : readFormat body = .ok request) :
    respond env registry ⟨"POST", "/api/v1/format", body⟩ =
      call env registry "format" (.ofFormat request.template (Json.toValues request.arguments)
        (request.typed.getD false)) := by
  have hroute : Route.ofPath? "/api/v1/format" = some .format := Route.ofPath?_path .format
  rw [respond, hroute]
  simp only [Route.method, if_true, Route.respond, h]

theorem call_result {name : String} {keywords : Keywords}
    (hfound : registry.find? name = some found) :
    (call env registry name keywords).result =
      match (found.handler env keywords).result with
      | .ok answer => Response.ofAnswer answer
      | .error fault => .ok (.error 500 "Internal server error" fault.diagnostics) := by
  simp only [call, hfound, Logged.result_bind]
  cases (found.handler env keywords).result <;> rfl

theorem ofAnswer_formatted (text : String) {count : Nat}
    (hcount : Numeral.isWritable count = true) :
    Response.ofAnswer (.outcome (.completed (.formatted text count))) =
      .ok (.ok (.object [("result", .text text), ("arguments", .int count)])) := by
  rw [Response.ofAnswer, publish_formatted text hcount]
  rfl

theorem ofAnswer_unencodable {text : LooseText} {cause : Fault} (h : text.encode = .error cause)
    (count : Nat) :
    ∃ fault, Response.ofAnswer (.outcome (.completed (.formatted text count))) = .error fault := by
  obtain ⟨fault, hfault⟩ := publish_unencodable h count
  exact ⟨fault, by rw [Response.ofAnswer, hfault, Except.map]⟩

theorem ofAnswer_rejected {error : String} (h : error ≠ "") (diagnostics : List Diagnostic) :
    Response.ofAnswer (.outcome (.rejected error diagnostics)) =
      .ok (.error 400 error diagnostics) := by
  rw [Response.ofAnswer, if_neg h]

/-- Whether a body asks for a template to be formatted with texts, which are to be read or not. -/
def Asks (body : List UInt8) (template : String) (arguments : List String) (typed : Bool) : Prop :=
  ∃ given, readFormat body = .ok ⟨template, arguments.map Json.ofString, given⟩ ∧
    given.getD false = typed

variable {template : String} {arguments : List String} {typed : Bool}

theorem Asks.respond (h : Asks body template arguments typed) :
    (respond env .shipped ⟨"POST", "/api/v1/format", body⟩).result =
      match (Handler.format env
        (.ofFormat template (arguments.map Value.ofString) typed)).result with
      | .ok answer => Response.ofAnswer answer
      | .error fault => .ok (.error 500 "Internal server error" fault.diagnostics) := by
  obtain ⟨given, hbody, rfl⟩ := h
  have hfound : Registry.shipped.find? "format" = some Feature.format := rfl
  have hvalues : Json.toValues (arguments.map Json.ofString) = arguments.map Value.ofString := by
    rw [Json.toValues_eq_map, List.map_map]
    exact List.map_congr_left fun argument _ => by
      rw [Function.comp_apply, Json.ofString, Json.toValue, Value.ofString]
  rw [respond_format env .shipped hbody, call_result hfound, hvalues]
  rfl

end Positional.Service
