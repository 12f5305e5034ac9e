import Positional.Fault
import Positional.Json.Printer

/-!
# Published documents

What of a document reaches the outside.  Members whose names mark them as private stay behind, at
any depth.  JSON has no form for infinities and for no number, an integer may have too many digits
to be written, and a lone half of a surrogate pair has no bytes, so a document that holds one of
them in what is left cannot be published.
-/

namespace Positional.Json

def privateMark : List Char := ['_', 's', 'a']

def isPrivate (name : LooseText) : Bool :=
  (privateMark.map .char).isPrefixOf name.codes

mutual

def withoutPrivate : Json → Json
  | list items => .list (itemsWithoutPrivate items)
  | object members => .object (membersWithoutPrivate members)
  | other => other

def itemsWithoutPrivate : List Json → List Json
  | [] => []
  | item :: rest => item.withoutPrivate :: itemsWithoutPrivate rest

def membersWithoutPrivate : List (LooseText × Json) → List (LooseText × Json)
  | [] => []
  | (name, value) :: rest =>
    if isPrivate name then membersWithoutPrivate rest
    else (name, value.withoutPrivate) :: membersWithoutPrivate rest

end

mutual

/-- The fault of the first number in a document that has no JSON form or too many digits. -/
def numberFault? : Json → Option Fault
  | int i => if Numeral.isWritable i then none else some .unwritableInteger
  | number n => if n.isFinite then none else some .notCompliant
  | list items => itemsFault? items
  | object members => membersFault? members
  | _ => none

def itemsFault? : List Json → Option Fault
  | [] => none
  | item :: rest => item.numberFault?.or (itemsFault? rest)

def membersFault? : List (LooseText × Json) → Option Fault
  | [] => none
  | (_, value) :: rest => value.numberFault?.or (membersFault? rest)

end

/-- A document as it reaches the outside, where it is sent as bytes. -/
def publish (document : Json) : Except Fault Json :=
  let shown := document.withoutPrivate
  match shown.numberFault? with
  | some fault => .error fault
  | none => shown.print.encode.map fun _ => shown

end Positional.Json
