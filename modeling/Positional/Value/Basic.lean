import Positional.Double.Basic
import Positional.Fault

/-!
# Argument values

The values that can be substituted into a template.
-/

namespace Positional

inductive Value where
  | none
  | bool (b : Bool)
  | int (i : Int)
  | float (number : Double)
  | text (s : LooseText)
  | list (items : List Value)
  | tuple (items : List Value)
  | dict (entries : List (Value × Value))
  /-- a value of a caller's own type, shown by the given text -/
  | object (shown : String)
  /-- a value of a caller's own type that cannot be shown -/
  | unshowable (message : String)

namespace Value

def ofString (s : String) : Value :=
  text s

def typeName : Value → String
  | none => "NoneType"
  | bool _ => "bool"
  | int _ => "int"
  | float _ => "float"
  | text _ => "str"
  | list _ => "list"
  | tuple _ => "tuple"
  | dict _ => "dict"
  | object _ => "object"
  | unshowable _ => "object"

def characters (s : LooseText) : List Value :=
  s.codes.map fun code => text ⟨[code]⟩

/-- The items of a value that can be gone through, refused for a value that cannot. -/
def items : Value → Except Fault (List Value)
  | list items => .ok items
  | tuple items => .ok items
  | text s => .ok (characters s)
  | dict entries => .ok (entries.map Prod.fst)
  | other => .error (.notIterable other.typeName)

/-- Whether a value counts as true: not for nothing, false, zero and what is empty. -/
def isTruthy : Value → Bool
  | none => false
  | bool b => b
  | int i => i != 0
  | float number => number != .zero false && number != .zero true
  | text s => !s.codes.isEmpty
  | list items => !items.isEmpty
  | tuple items => !items.isEmpty
  | dict entries => !entries.isEmpty
  | object _ => true
  | unshowable _ => true

end Value

end Positional
