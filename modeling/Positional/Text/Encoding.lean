import Positional.Text.Utf8

/-!
# Detecting the encoding of a request body

A body is text in UTF-8, UTF-16 or UTF-32.  A byte order mark decides; without one, the zero bytes
among the first four do, since the first character of a body is an ASCII character.
-/

namespace Positional.Text.Encoding

inductive ByteOrder where
  | big
  | little
deriving DecidableEq

inductive Scheme where
  | utf8
  | utf16 (order : ByteOrder)
  | utf32 (order : ByteOrder)
deriving DecidableEq

def marked? : List UInt8 → Option (Scheme × List UInt8)
  | 0x00 :: 0x00 :: 0xFE :: 0xFF :: rest => some (.utf32 .big, rest)
  | 0xFF :: 0xFE :: 0x00 :: 0x00 :: rest => some (.utf32 .little, rest)
  | 0xFE :: 0xFF :: rest => some (.utf16 .big, rest)
  | 0xFF :: 0xFE :: rest => some (.utf16 .little, rest)
  | 0xEF :: 0xBB :: 0xBF :: rest => some (.utf8, rest)
  | _ => none

def unmarked : List UInt8 → Scheme
  | a :: b :: c :: d :: _ =>
    if a = 0 then (if b = 0 then .utf32 .big else .utf16 .big)
    else if b = 0 then (if c = 0 && d = 0 then .utf32 .little else .utf16 .little)
    else .utf8
  | [a, b] => if a = 0 then .utf16 .big else if b = 0 then .utf16 .little else .utf8
  | _ => .utf8

def unit16 (order : ByteOrder) (a b : UInt8) : Nat :=
  match order with
  | .big => a.toNat * 256 + b.toNat
  | .little => b.toNat * 256 + a.toNat

def unit32 (order : ByteOrder) (a b c d : UInt8) : Nat :=
  match order with
  | .big => unit16 .big a b * 65536 + unit16 .big c d
  | .little => unit16 .little c d * 65536 + unit16 .little a b

def units16? (order : ByteOrder) : List UInt8 → Option (List Nat)
  | [] => some []
  | [_] => none
  | a :: b :: rest => (units16? order rest).map (unit16 order a b :: ·)

/-- A high surrogate, the first half of a pair. -/
def isHighHalf (unit : Nat) : Bool :=
  0xD800 ≤ unit && unit < 0xDC00

/-- A low surrogate, the second half of a pair. -/
def isLowHalf (unit : Nat) : Bool :=
  0xDC00 ≤ unit && unit < 0xE000

def joinHalves (high low : Nat) : Nat :=
  0x10000 + (high - 0xD800) * 0x400 + (low - 0xDC00)

/-- The text of a sequence of 16-bit units: a pair of halves is one character, and half of a pair
that stands alone is kept. -/
def ofUnits16 : List Nat → List CodePoint
  | [] => []
  | [unit] => [.ofNat unit]
  | high :: low :: rest =>
    if isHighHalf high && isLowHalf low then
      .ofNat (joinHalves high low) :: ofUnits16 rest
    else .ofNat high :: ofUnits16 (low :: rest)

/-- The text of a sequence of four-byte units, none if a unit is no code point or bytes are left
over. -/
def ofBytes32? (order : ByteOrder) : List UInt8 → Option (List CodePoint)
  | [] => some []
  | a :: b :: c :: d :: rest =>
    if unit32 order a b c d < 0x110000 then
      (ofBytes32? order rest).map (.ofNat (unit32 order a b c d) :: ·)
    else none
  | _ => none

def Scheme.decode? (scheme : Scheme) (bytes : List UInt8) : Option (List CodePoint) :=
  match scheme with
  | .utf8 => Utf8.decodeLoose? bytes
  | .utf16 order => (units16? order bytes).map ofUnits16
  | .utf32 order => ofBytes32? order bytes

/-- The text of a body, none if the bytes are no text in the encoding they seem to have. -/
def decodeBody? (bytes : List UInt8) : Option (List CodePoint) :=
  match marked? bytes with
  | some (scheme, rest) => scheme.decode? rest
  | none => (unmarked bytes).decode? bytes

end Positional.Text.Encoding
