import Positional.Double.Basic

/-!
# Shortest decimal digits of a double

Of the decimals that read back as a given double, those with the fewest digits are chosen, and of
these the nearest one.
-/

namespace Positional.Double

-- Powers are the core library's, also where another instance is in scope.
attribute [local instance (high)] instPowNat

/-- The decimal `digits * 10 ^ exponent`. -/
structure Scaled where
  digits : Nat
  exponent : Int
deriving DecidableEq

/-- The exact quotient `mantissa * 2 ^ exponent`, as numerator and denominator. -/
def quotient (mantissa : Nat) (exponent : Int) : Nat × Nat :=
  (mantissa * 2 ^ exponent.toNat, 2 ^ (-exponent).toNat)

/-- The least power of ten, as an exponent, that is greater than a quotient in the range of
doubles.  Four hundred further places make every such quotient greater than one. -/
def decimalSize (num den : Nat) : Int :=
  (Numeral.digits (num * 10 ^ (400 : Nat) / den)).length - 400

/-- The greatest decimal on the grid of multiples of `10 ^ exponent` that is at most a quotient. -/
def gridFloor (num den : Nat) (exponent : Int) : Nat :=
  num * 10 ^ (-exponent).toNat / (den * 10 ^ exponent.toNat)

/-- Whether a decimal reads back as the positive double `mantissa * 2 ^ exponent`. -/
def readsBack (mantissa : Nat) (exponent : Int) (decimal : Scaled) : Bool :=
  ofRatio false (decimal.digits * 10 ^ decimal.exponent.toNat) (10 ^ (-decimal.exponent).toNat) =
    .finite false mantissa exponent

/-- Of two neighbours on a grid the one nearer to the quotient, of two equally near the even one. -/
def nearerOfGrid (num den : Nat) (exponent : Int) (floor : Nat) : Nat :=
  match compare (2 * num * 10 ^ (-exponent).toNat) ((2 * floor + 1) * (den * 10 ^ exponent.toNat)) with
  | .lt => floor
  | .gt => floor + 1
  | .eq => floor + floor % 2

/-- The decimal on a grid that reads back, if one of the two neighbours of the double does. -/
def onGrid? (mantissa : Nat) (exponent : Int) (grid : Int) : Option Scaled :=
  let (num, den) := quotient mantissa exponent
  let floor := gridFloor num den grid
  match readsBack mantissa exponent ⟨floor, grid⟩, readsBack mantissa exponent ⟨floor + 1, grid⟩ with
  | true, true => some ⟨nearerOfGrid num den grid floor, grid⟩
  | true, false => some ⟨floor, grid⟩
  | false, true => some ⟨floor + 1, grid⟩
  | false, false => none

def exact (mantissa : Nat) (exponent : Int) : Scaled :=
  ⟨mantissa * 2 ^ exponent.toNat * 5 ^ (-exponent).toNat, min exponent 0⟩

/-- The shortest decimal of a positive double: the grids of one to seventeen digits are tried in
turn. -/
def shortest (mantissa : Nat) (exponent : Int) : Scaled :=
  let (num, den) := quotient mantissa exponent
  let size := decimalSize num den
  ((List.range 17).findSome? fun (i : Nat) => onGrid? mantissa exponent (size - i - 1)).getD
    (exact mantissa exponent)

end Positional.Double
