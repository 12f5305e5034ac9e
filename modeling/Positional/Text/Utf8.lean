import Positional.Text.Loose

/-!
# UTF-8

A strict decoder.  A sequence of bytes that is no text is refused with the place and the cause of
the first fault.
-/

namespace Positional.Text.Utf8

inductive Cause where
  | startByte
  | continuationByte
  | truncated
deriving DecidableEq

/-- A refused sequence: its first byte, the offset of that byte, how many bytes are at fault, and
the cause. -/
structure Fault where
  byte : UInt8
  offset : Nat
  length : Nat
  cause : Cause
deriving DecidableEq

inductive Step where
  | code (code : Nat) (rest : List UInt8)
  | refused (length : Nat) (cause : Cause)

/-- A byte that continues a character: `10xxxxxx`. -/
def isTail (b : UInt8) : Bool :=
  0x80 ≤ b && b < 0xC0

/-- The second byte of a three-byte character keeps out overlong forms and, unless `surrogates`
are let through, the surrogates. -/
def isSecondOfThree (surrogates : Bool) (first second : UInt8) : Bool :=
  isTail second && (first != 0xE0 || 0xA0 ≤ second) &&
    (first != 0xED || surrogates || second < 0xA0)

/-- The second byte of a four-byte character keeps out overlong forms and code points above the
last plane. -/
def isSecondOfFour (first second : UInt8) : Bool :=
  isTail second && (first != 0xF0 || 0x90 ≤ second) && (first != 0xF4 || second < 0x90)

def tailBits (b : UInt8) : Nat :=
  b.toNat % 64

def stepTwo (first : UInt8) : List UInt8 → Step
  | [] => .refused 1 .truncated
  | second :: rest =>
    if isTail second then .code (first.toNat % 32 * 64 + tailBits second) rest
    else .refused 1 .continuationByte

def stepThree (surrogates : Bool) (first : UInt8) : List UInt8 → Step
  | [] => .refused 1 .truncated
  | [second] =>
    if isSecondOfThree surrogates first second then .refused 2 .truncated
    else .refused 1 .continuationByte
  | second :: third :: rest =>
    if !isSecondOfThree surrogates first second then .refused 1 .continuationByte
    else if isTail third then
      .code (first.toNat % 16 * 4096 + tailBits second * 64 + tailBits third) rest
    else .refused 2 .continuationByte

def stepFour (first : UInt8) : List UInt8 → Step
  | [] => .refused 1 .truncated
  | [second] =>
    if isSecondOfFour first second then .refused 2 .truncated else .refused 1 .continuationByte
  | [second, third] =>
    if !isSecondOfFour first second then .refused 1 .continuationByte
    else if isTail third then .refused 3 .truncated
    else .refused 2 .continuationByte
  | second :: third :: fourth :: rest =>
    if !isSecondOfFour first second then .refused 1 .continuationByte
    else if !isTail third then .refused 2 .continuationByte
    else if isTail fourth then
      .code (first.toNat % 8 * 262144 + tailBits second * 4096 + tailBits third * 64 +
        tailBits fourth) rest
    else .refused 3 .continuationByte

def step (surrogates : Bool) (first : UInt8) (rest : List UInt8) : Step :=
  if first < 0x80 then .code first.toNat rest
  else if first < 0xC2 then .refused 1 .startByte
  else if first < 0xE0 then stepTwo first rest
  else if first < 0xF0 then stepThree surrogates first rest
  else if first < 0xF5 then stepFour first rest
  else .refused 1 .startByte

theorem step_rest_length {surrogates : Bool} {first : UInt8} {bytes rest : List UInt8}
    {code : Nat} (h : step surrogates first bytes = .code code rest) :
    rest.length ≤ bytes.length := by
  unfold step at h
  split at h
  · injection h with _ hrest
    simp [hrest]
  · split at h
    · simp at h
    · split at h
      · unfold stepTwo at h
        split at h <;> grind
      · split at h
        · unfold stepThree at h
          split at h <;> grind
        · split at h
          · unfold stepFour at h
            split at h <;> grind
          · simp at h

/-- Decode bytes from the given offset on, to the numbers of code points. -/
def decodeFrom (surrogates : Bool) (offset : Nat) : List UInt8 → Except Fault (List Nat)
  | [] => .ok []
  | first :: bytes =>
    match h : step surrogates first bytes with
    | .code code rest =>
      (decodeFrom surrogates (offset + (bytes.length + 1 - rest.length)) rest).map (code :: ·)
    | .refused length cause => .error ⟨first, offset, length, cause⟩
termination_by bytes => bytes.length
decreasing_by
  have := step_rest_length h
  simp
  omega

/-- Decode a whole sequence of bytes, refusing encoded surrogates. -/
def decode (bytes : List UInt8) : Except Fault (List Char) :=
  (decodeFrom false 0 bytes).map (·.map Char.ofNat)

/-- Decode a whole sequence of bytes in which lone halves of surrogate pairs may be encoded. -/
def decodeLoose? (bytes : List UInt8) : Option (List CodePoint) :=
  (decodeFrom true 0 bytes).toOption.map (·.map CodePoint.ofNat)

def encode (text : List Char) : List UInt8 :=
  text.flatMap String.utf8EncodeChar

end Positional.Text.Utf8
