import Positional.Json.Basic

/-!
# Diagnostics

A machine-friendly description of a fault.  Its payload holds only the fields that are set.
-/

namespace Positional

structure Diagnostic where
  code : String
  message : String
  position : Option Int
  index : Option Int
  available : Option Int
deriving DecidableEq

namespace Diagnostic

/-- A member of a payload, left out where its value is not set. -/
def optionalMember (name : String) (value : Option Int) : List (LooseText × Json) :=
  value.toList.map fun i => (name, .int i)

def members (diagnostic : Diagnostic) : List (LooseText × Json) :=
  ([("code", .text diagnostic.code), ("message", .text diagnostic.message)] :
      List (LooseText × Json)) ++
    optionalMember "position" diagnostic.position ++
    optionalMember "index" diagnostic.index ++
    optionalMember "available" diagnostic.available

def payload (diagnostic : Diagnostic) : Json :=
  .object diagnostic.members

end Diagnostic

def FormatError.diagnostic (error : FormatError) : Diagnostic :=
  ⟨error.code, error.message, error.position, error.index, error.available⟩

/-- The descriptions of a fault: of a format error its own, of any other fault its message, or the
name of its kind where the message is empty. -/
def Fault.diagnostics : Fault → List Diagnostic
  | .format error => [error.diagnostic]
  | fault =>
    [⟨"E_INTERNAL", if fault.message = "" then fault.kindName else fault.message, none, none, none⟩]

end Positional
