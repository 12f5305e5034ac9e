/-!
# Cursors

A place in a text that is read from left to right, a text of characters or of code points.
-/

namespace Positional

/-- A place in a text: how many of its elements are before it, and which are after it. -/
structure Cursor (α : Type) where
  offset : Nat
  rest : List α
deriving DecidableEq

namespace Cursor

variable {α : Type}

def start (text : List α) : Cursor α :=
  ⟨0, text⟩

def skip (inClass : α → Bool) (cursor : Cursor α) : Cursor α :=
  let rest := cursor.rest.dropWhile inClass
  ⟨cursor.offset + (cursor.rest.length - rest.length), rest⟩

end Cursor

end Positional
