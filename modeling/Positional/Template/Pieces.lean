import Positional.Json.Basic
import Positional.Template.Basic

/-!
# Templates given as data

A feature may be given data that is no text as its template.  A list is taken piece by piece, and
its pieces are literal text: the braces inside a piece mean nothing, and a piece that is a brace and
nothing else is refused.  Templates are texts of characters, so a piece with a lone half of a
surrogate pair is refused as well.  An empty object has no pieces; all other data is refused.
-/

namespace Positional.Template

def isBrace : Json → Bool
  | .text s => s = .ofString "\x7b" || s = .ofString "\x7d"
  | _ => false

def pieceTexts (position : Nat) : List Json → Except Fault (List String)
  | [] => .ok []
  | .text s :: rest => do return (← s.encode) :: (← pieceTexts (position + 1) rest)
  | piece :: _ => .error (.notPiece position piece.typeName)

/-- The template of a list of pieces: one literal, or nothing where there are no pieces.  A brace
among the pieces is refused before a piece that is no text. -/
def ofPieces (pieces : List Json) : Except Fault Template :=
  if pieces.any isBrace then .error (.noAttribute "list" "startswith")
  else do
    let texts ← pieceTexts 0 pieces
    return ⟨if texts.isEmpty then [] else [.literal (String.join texts)]⟩

def ofData : Json → Except Fault Template
  | .list pieces => ofPieces pieces
  | .object [] => .ok ⟨[]⟩
  | .object (_ :: _) => .error (.missingIndex 0)
  | data => .error (.noLength data.typeName)

def pieceCount : Json → Nat
  | .list pieces => pieces.length
  | _ => 0

end Positional.Template
