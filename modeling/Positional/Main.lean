import Positional.CommandLine.Basic
import Positional.Log.Elapsed

/-!
# The program

The command line over the real world: the environment variables, the template file, and the two
output streams.  Log lines go to standard error, each with the milliseconds since the start.  What
is decided is decided by `CommandLine.Invocation`; here it is only carried out.
-/

namespace Positional.CommandLine

def Invocation.templateFile? : Invocation → Option String
  | format call => call.templateFile
  | _ => none

/-- The fault of an error number.  The number may come negated. -/
def FileFault.ofCode (code : UInt32) (reason : String) : FileFault :=
  let number := (min code (0 - code)).toNat
  let numbered := [isDirectory, notDirectory, nameTooLong]
  match numbered.find? (fun fault => fault.number? = some number) with
  | some fault => fault
  | none => .system number reason.capitalize

def FileFault.ofSystem : IO.Error → FileFault
  | .noFileOrDirectory .. => .missing
  | .inappropriateType _ code reason => .ofCode code reason
  | .invalidArgument _ code reason => .ofCode code reason
  | .permissionDenied _ code reason => .ofCode code reason
  | .resourceExhausted _ code reason => .ofCode code reason
  | .noSuchThing _ code reason => .ofCode code reason
  | .hardwareFault code reason => .ofCode code reason
  | .otherError code reason => .ofCode code reason
  | _ => .system 5 "Input/output error"

def readFile (path : String) : IO (Except FileFault (List UInt8)) := do
  try
    return .ok (← IO.FS.readBinFile path).toList
  catch problem =>
    return .error (.ofSystem problem)

def readEnvironment : IO Environment := do
  return ⟨← IO.getEnv Environment.maxIndexName, ← IO.getEnv Environment.hostName,
    ← IO.getEnv Environment.portName⟩

def usageLine : String :=
  "Usage: posfmt [version | format | parse | serve] [OPTIONS] [ARGUMENTS]..."

/-- Print what a command has to say: its log, its output, and the fault that escaped from it.  The
milliseconds are those of the log lines. -/
def Run.emit (run : Run) (milliseconds : Nat) : IO Unit := do
  for entry in run.entries do
    IO.eprintln (Log.Elapsed.line milliseconds entry.message)
  IO.print run.output
  match run.escaped with
  | some fault => IO.eprintln (fault.kindName ++ ": " ++ fault.message)
  | none => pure ()

def Invocation.carryOut (invocation : Invocation) (start : Nat) : IO UInt32 := do
  let environment ← readEnvironment
  let file ← invocation.templateFile?.mapM readFile
  let run := invocation.run environment .shipped fun _ => file.getD (.error .missing)
  run.emit ((← IO.monoMsNow) - start)
  return run.exitCode.toUInt32

def carryOut (words : List String) : IO UInt32 := do
  let start ← IO.monoMsNow
  match Invocation.read words with
  | .ok invocation => invocation.carryOut start
  | .error _ =>
    IO.eprintln usageLine
    return 2

end Positional.CommandLine

/-- The program: a command line in, an exit code out. -/
def main (words : List String) : IO UInt32 :=
  Positional.CommandLine.carryOut words
