import Positional.Numeral

/-!
# Binary floating-point numbers

A double is a signed multiple of a power of two, an infinity, or no number.  All arithmetic is done
exactly on natural numbers and rounded once, to the nearest double, a half to the even neighbour.
-/

namespace Positional

-- Powers are the core library's, also where another instance is in scope.
attribute [local instance (high)] instPowNat

/-- A binary floating-point number with 53 bits of precision.  A finite one is
`mantissa * 2 ^ exponent`, with the mantissa below `2 ^ 53` and as large as the least exponent
allows. -/
inductive Double where
  | nan
  | infinite (negative : Bool)
  | finite (negative : Bool) (mantissa : Nat) (exponent : Int)
deriving DecidableEq

namespace Double

def minExponent : Int := -1074

def maxExponent : Int := 971

def zero (negative : Bool) : Double :=
  finite negative 0 minExponent

/-- A quotient rounded to a whole number, a half to the even neighbour. -/
def roundDiv (num den : Nat) : Nat :=
  let floor := num / den
  let twice := 2 * (num % den)
  if twice < den then floor
  else if den < twice then floor + 1
  else floor + floor % 2

/-- `num * 2 ^ -exponent / den`, rounded to a whole number. -/
def scaledRound (num den : Nat) (exponent : Int) : Nat :=
  roundDiv (num * 2 ^ (-exponent).toNat) (den * 2 ^ exponent.toNat)

/-- The greatest power of two, as an exponent, that is at most a positive quotient. -/
def floorLog2 (num den : Nat) : Int :=
  let estimate : Int := (num.log2 : Int) - den.log2
  if den * 2 ^ estimate.toNat ≤ num * 2 ^ (-estimate).toNat then estimate else estimate - 1

def ofRatio (negative : Bool) (num den : Nat) : Double :=
  if num = 0 then zero negative
  else
    let exponent := max minExponent (floorLog2 num den - 52)
    let mantissa := scaledRound num den exponent
    let rounded : Nat × Int :=
      if mantissa = 2 ^ (53 : Nat) then (2 ^ (52 : Nat), exponent + 1) else (mantissa, exponent)
    if maxExponent < rounded.2 then infinite negative else finite negative rounded.1 rounded.2

/-- The double nearest to `m * 2 ^ e`; zero has no sign. -/
def ofScaled (m : Int) (e : Int) : Double :=
  ofRatio (m < 0) (m.natAbs * 2 ^ e.toNat) (2 ^ (-e).toNat)

/-- The double nearest to `digits * 10 ^ exponent`.  A size far outside the range of doubles is
decided before any power is computed. -/
def ofDecimal (negative : Bool) (digits : Nat) (exponent : Int) : Double :=
  if digits = 0 then zero negative
  else
    let size : Int := (Numeral.digits digits).length + exponent
    if 310 < size then infinite negative
    else if size < -330 then zero negative
    else ofRatio negative (digits * 10 ^ exponent.toNat) (10 ^ (-exponent).toNat)

def signedMantissa (negative : Bool) (mantissa : Nat) : Int :=
  Numeral.signed negative mantissa

def sub : Double → Double → Double
  | .finite na ma ea, .finite nb mb eb =>
    let e := min ea eb
    let a := signedMantissa na ma * 2 ^ (ea - e).toNat
    let b := signedMantissa nb mb * 2 ^ (eb - e).toNat
    ofScaled (a - b) e
  | .finite .., .infinite negative => .infinite (!negative)
  | .infinite negative, .finite .. => .infinite negative
  | .infinite a, .infinite b => if a = b then .nan else .infinite a
  | .nan, _ => .nan
  | _, .nan => .nan

def scale (factor : Nat) : Double → Double
  | .finite negative mantissa exponent =>
    ofScaled (signedMantissa negative mantissa * factor) exponent
  | other => other

/-- The whole part of `mantissa * 2 ^ exponent`, with a sign. -/
def wholePart (negative : Bool) (mantissa : Nat) (exponent : Int) : Int :=
  Numeral.signed negative (mantissa * 2 ^ exponent.toNat / 2 ^ (-exponent).toNat)

def toInt? : Double → Option Int
  | .finite negative mantissa exponent =>
    if mantissa * 2 ^ exponent.toNat % 2 ^ (-exponent).toNat = 0 then
      some (wholePart negative mantissa exponent)
    else none
  | _ => none

/-- Whether a double is neither an infinity nor no number. -/
def isFinite : Double → Bool
  | .finite .. => true
  | _ => false

/-- Equality of values: the two zeros are equal, no number is not equal to itself. -/
def sameValue : Double → Double → Bool
  | .finite na ma ea, .finite nb mb eb => (ma = 0 && mb = 0) || (na = nb && ma = mb && ea = eb)
  | .infinite a, .infinite b => a = b
  | _, _ => false

end Double

end Positional
