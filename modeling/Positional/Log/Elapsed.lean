import Positional.Double.Basic
import Positional.Fault

/-!
# Elapsed time in log lines

A log line starts with the milliseconds since the program's start, right-aligned for up to 9999
seconds.
-/

namespace Positional.Log.Elapsed

-- Powers are the core library's, also where another instance is in scope.
attribute [local instance (high)] instPowNat

def width : Nat := 8

/-- The whole part of a number, rounded toward zero; a number that is not finite has none. -/
def truncate : Double → Except Fault Int
  | .finite negative mantissa exponent => .ok (Double.wholePart negative mantissa exponent)
  | .infinite _ => .error .infiniteNumber
  | .nan => .error .noNumber

def milliseconds (start now : Double) : Except Fault Int :=
  truncate ((now.sub start).scale 1000)

def alignRight (width : Nat) (text : String) : String :=
  String.ofList (List.replicate (width - text.length) ' ') ++ text

/-- The mark in front of a message: aligned below ten million milliseconds, as it is from there
on. -/
def mark (milliseconds : Int) : String :=
  let number := Numeral.text milliseconds
  "[" ++ (if milliseconds < 10 ^ (7 : Nat) then alignRight width number else number) ++ "ms]"

def line (milliseconds : Int) (message : String) : String :=
  mark milliseconds ++ " " ++ message

end Positional.Log.Elapsed
