import Positional.Value.Basic

/-!
# JSON data

The data that requests bring and responses carry.  The members of an object keep their order, and a
name that is set again keeps its place.
-/

namespace Positional

inductive Json where
  | null
  | bool (b : Bool)
  | int (i : Int)
  | number (number : Double)
  | text (s : LooseText)
  | list (items : List Json)
  | object (members : List (LooseText × Json))

namespace Json

def ofString (s : String) : Json :=
  text s

def typeName : Json → String
  | null => "NoneType"
  | bool _ => "bool"
  | int _ => "int"
  | number _ => "float"
  | text _ => "str"
  | list _ => "list"
  | object _ => "dict"

def setMember (name : LooseText) (value : Json) : List (LooseText × Json) → List (LooseText × Json)
  | [] => [(name, value)]
  | (n, v) :: rest => if n = name then (n, value) :: rest else (n, v) :: setMember name value rest

/-- The object with the given members, later ones replacing earlier ones of the same name. -/
def ofMembers (members : List (LooseText × Json)) : Json :=
  object (members.foldl (fun present member => setMember member.1 member.2 present) [])

def member? (name : LooseText) : Json → Option Json
  | object members => members.lookup name
  | _ => none

mutual

def toValue : Json → Value
  | null => .none
  | bool b => .bool b
  | int i => .int i
  | number n => .float n
  | text s => .text s
  | list items => .list (toValues items)
  | object members => .dict (toEntries members)

def toValues : List Json → List Value
  | [] => []
  | item :: rest => item.toValue :: toValues rest

def toEntries : List (LooseText × Json) → List (Value × Value)
  | [] => []
  | (name, value) :: rest => (.text name, value.toValue) :: toEntries rest

end

theorem toValues_eq_map (items : List Json) : toValues items = items.map toValue := by
  induction items with
  | nil => rfl
  | cons item rest ih => simp [toValues, ih]

end Json

end Positional
