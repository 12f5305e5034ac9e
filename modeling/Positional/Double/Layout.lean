import Positional.Double.Shortest

/-!
# Layout of a double's digits

The shortest digits of a double are written positionally, or with an exponent when the number is
very large or very small.
-/

namespace Positional.Double

structure Layout where
  /-- the least exponent of the leading digit that is written positionally -/
  positionalFrom : Int
  /-- the exponents of the leading digit from here on are not written positionally -/
  positionalBelow : Int
  /-- the least number of digits of a written exponent -/
  exponentWidth : Nat

namespace Layout

/-- A number written positionally always has a point: `1.0`. -/
def positional (digits : List Char) (point : Int) : List Char :=
  if point ≤ 0 then '0' :: '.' :: List.replicate (-point).toNat '0' ++ digits
  else if digits.length ≤ point.toNat then
    digits ++ List.replicate (point.toNat - digits.length) '0' ++ ['.', '0']
  else digits.take point.toNat ++ '.' :: digits.drop point.toNat

/-- The exponent of the leading digit, with its sign and padded with zeros: `e-05`. -/
def exponentPart (layout : Layout) (exponent : Int) : List Char :=
  let magnitude := Numeral.digits exponent.natAbs
  'e' :: (if exponent < 0 then '-' else '+') ::
    List.replicate (layout.exponentWidth - magnitude.length) '0' ++ magnitude

/-- A number written with an exponent has a point only if digits follow it: `1e+16`, `1.5e+16`. -/
def scientific (layout : Layout) (digits : List Char) (exponent : Int) : List Char :=
  let mantissa := match digits with
    | first :: second :: rest => first :: '.' :: second :: rest
    | single => single
  mantissa ++ layout.exponentPart exponent

/-- Lay out digits with the point after the first `point` of them. -/
def place (layout : Layout) (digits : List Char) (point : Int) : List Char :=
  if layout.positionalFrom ≤ point - 1 && point - 1 < layout.positionalBelow then
    positional digits point
  else layout.scientific digits (point - 1)

def digitsAndPoint (decimal : Scaled) : List Char × Int :=
  let written := Numeral.digits decimal.digits
  ((written.reverse.dropWhile (· = '0')).reverse, written.length + decimal.exponent)

def text (layout : Layout) : Double → List Char
  | .nan => ['n', 'a', 'n']
  | .infinite negative => (if negative then ['-'] else []) ++ ['i', 'n', 'f']
  | .finite negative mantissa exponent =>
    let magnitude :=
      if mantissa = 0 then ['0', '.', '0']
      else
        let (digits, point) := digitsAndPoint (shortest mantissa exponent)
        layout.place digits point
    (if negative then ['-'] else []) ++ magnitude

end Layout

/-- Numbers are written positionally from `0.0001` on and below `10 ^ 16`, otherwise with an
exponent of at least two digits. -/
def plainLayout : Layout where
  positionalFrom := -4
  positionalBelow := 16
  exponentWidth := 2

def text (number : Double) : String :=
  String.ofList (plainLayout.text number)

end Positional.Double
