import Positional.Feature.Outcome

/-!
# Payloads of diagnostics

A payload leaves out the fields that are not set.  So a name that is missing from it reads as a
field that is not set, while zero is a value like any other: reading a payload back gives the
diagnostic that it was made of.  The code of a format error tells which kind of error it is.
-/

namespace Positional

def Json.memberInt? (name : String) (document : Json) : Option Int :=
  match document.member? name with
  | some (.int i) => some i
  | _ => none

def Json.memberText? (name : String) (document : Json) : Option String :=
  match document.member? name with
  | some (.text s) => s.toString?
  | _ => none

def FormatError.kinds : List (String × String) :=
  [("E_FORMAT", "FormatError"), ("E_MALFORMED_PLACEHOLDER", "MalformedPlaceholder"),
    ("E_UNMATCHED_CLOSING_BRACE", "UnmatchedClosingBrace"),
    ("E_ARGUMENT_INDEX_OUT_OF_RANGE", "ArgumentIndexOutOfRange")]

namespace Diagnostic

/-- The diagnostic that a payload describes: its code and its message have to be there, the other
fields need not. -/
def ofPayload? (payload : Json) : Option Diagnostic :=
  match payload.memberText? "code", payload.memberText? "message" with
  | some code, some message =>
    some ⟨code, message, payload.memberInt? "position", payload.memberInt? "index",
      payload.memberInt? "available"⟩
  | _, _ => none

def kindName? (diagnostic : Diagnostic) : Option String :=
  FormatError.kinds.lookup diagnostic.code

/-- A payload tells all that its diagnostic does, whichever of its fields are set. -/
theorem ofPayload?_payload (diagnostic : Diagnostic) :
    ofPayload? diagnostic.payload = some diagnostic := by
  have hcode : diagnostic.payload.memberText? "code" = some diagnostic.code :=
    LooseText.toString?_eq_some_iff.2 rfl
  have hmessage : diagnostic.payload.memberText? "message" = some diagnostic.message :=
    LooseText.toString?_eq_some_iff.2 rfl
  simp only [ofPayload?, hcode, hmessage]
  obtain ⟨code, message, position, index, available⟩ := diagnostic
  -- which member comes where is only known once each field is set or not
  cases position <;> cases index <;> cases available <;> rfl

/-- The code that an error is described by tells the kind of its fault. -/
theorem kindName?_diagnostic (error : FormatError) :
    error.diagnostic.kindName? = some (Fault.format error).kindName := by
  cases error <;> rfl

/-- A payload has a name for its code, for its message, and for each further field that is set. -/
theorem names_members (diagnostic : Diagnostic) :
    diagnostic.members.map Prod.fst =
      (["code", "message"] ++ (if diagnostic.position.isSome then ["position"] else []) ++
        (if diagnostic.index.isSome then ["index"] else []) ++
        (if diagnostic.available.isSome then ["available"] else [])).map LooseText.ofString := by
  have hoptional : ∀ (name : String) (value : Option Int),
      (optionalMember name value).map Prod.fst =
        (if value.isSome then [name] else []).map LooseText.ofString := by
    intro name value
    cases value <;> rfl
  simp only [members, List.map_append, hoptional, List.map_cons, List.map_nil]

end Diagnostic

end Positional
