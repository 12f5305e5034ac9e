import Positional.Double.Layout
import Positional.Value.Basic

/-!
# Texts of argument values

A text stands for itself.  Inside a container the items are written so that they can be told
apart: texts in quotes, lists in brackets, tuples in parentheses, dictionaries in braces.
-/

namespace Positional.Value

def joined (items : List String) : String :=
  String.intercalate ", " items

mutual

def quoted : Value → Except Fault String
  | none => .ok "None"
  | bool b => .ok (if b then "True" else "False")
  | int i => Numeral.write i
  | float number => .ok number.text
  | text s => .ok (Text.Quoted.quoteLoose s)
  | list items => do return "[" ++ joined (← quotedItems items) ++ "]"
  | tuple items => do
    match ← quotedItems items with
    | [single] => return "(" ++ single ++ ",)"
    | written => return "(" ++ joined written ++ ")"
  | dict entries => do return "\x7b" ++ joined (← quotedEntries entries) ++ "\x7d"
  | object shown => .ok ("<obj " ++ shown ++ ">")
  | unshowable message => .error (.raised .runtime message)

def quotedItems : List Value → Except Fault (List String)
  | [] => .ok []
  | item :: rest => do return (← quoted item) :: (← quotedItems rest)

def quotedEntries : List (Value × Value) → Except Fault (List String)
  | [] => .ok []
  | (key, value) :: rest => do
    return ((← quoted key) ++ ": " ++ (← quoted value)) :: (← quotedEntries rest)

end

/-- The text that a value contributes to a formatted template. -/
def shown : Value → Except Fault LooseText
  | text s => .ok s
  | object shown => .ok shown
  | other => other.quoted.map LooseText.ofString

end Positional.Value
