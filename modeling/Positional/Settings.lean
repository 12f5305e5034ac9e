import Positional.Log.Basic
import Positional.Text.Quoted
import Positional.Numeral

/-!
# Settings

Three environment variables: the largest accepted placeholder index, and the host and port of the
server.  A variable that is unset or blank gives the default.  A number that cannot be read or is
too small also gives the default, with a warning.
-/

namespace Positional

structure Environment where
  maxIndex : Option String
  host : Option String
  port : Option String
deriving DecidableEq

namespace Environment

def empty : Environment :=
  ⟨none, none, none⟩

def maxIndexName : String := "POSFMT_MAX_ARGUMENT_INDEX"

def hostName : String := "POSFMT_HOST"

def portName : String := "POSFMT_PORT"

/-- Set or unset a variable; other names have no effect. -/
def set (env : Environment) (name : String) (value : Option String) : Environment :=
  if name = maxIndexName then { env with maxIndex := value }
  else if name = hostName then { env with host := value }
  else if name = portName then { env with port := value }
  else env

end Environment

namespace Settings

def defaultMaxIndex : Int := 65535

def defaultHost : String := "127.0.0.1"

def defaultPort : Int := 8000

/-- The value of a variable without the white space around it; blank for an unset variable. -/
def stripped (value : Option String) : String :=
  String.ofList (Text.trim Text.isBlank (value.getD "").toList)

inductive Rejection where
  | notInteger (written : String)
  | tooSmall (value : Int)

def Rejection.message (name : String) (default minimum : Int) : Rejection → String
  | .notInteger written =>
    "Ignoring " ++ name ++ "=" ++ Text.Quoted.quote written ++ ": not an integer, using " ++
      Numeral.text default
  | .tooSmall value =>
    "Ignoring " ++ name ++ "=" ++ Numeral.text value ++ ": below " ++ Numeral.text minimum ++
      ", using " ++ Numeral.text default

def readInteger (minimum : Int) (written : String) : Except Rejection Int :=
  match Numeral.lenient? written.toList with
  | none => .error (.notInteger written)
  | some value => if value < minimum then .error (.tooSmall value) else .ok value

def integer (name : String) (value : Option String) (default minimum : Int) : Logged Int :=
  let written := stripped value
  if written = "" then pure default
  else
    match readInteger minimum written with
    | .ok value => pure value
    | .error rejection => do
      Logged.write .warning (rejection.message name default minimum)
      return default

def maxIndex (env : Environment) : Logged Int :=
  integer Environment.maxIndexName env.maxIndex defaultMaxIndex 0

def host (env : Environment) : String :=
  let written := stripped env.host
  if written = "" then defaultHost else written

def port (env : Environment) : Logged Int :=
  integer Environment.portName env.port defaultPort 1

theorem integer_ge {name : String} {value : Option String} {default minimum : Int}
    (hdefault : minimum ≤ default) : minimum ≤ (integer name value default minimum).result := by
  unfold integer
  simp only
  split
  · simpa using hdefault
  · split
    · rename_i written read hread
      unfold readInteger at hread
      split at hread
      · simp at hread
      · split at hread
        · simp at hread
        · injection hread with hread
          simp
          omega
    · simpa using hdefault

end Settings

end Positional
