import Positional.CommandLine.Files
import Positional.CommandLine.Options
import Positional.Feature.Registry

/-!
# The command line

Four commands: `version`, `format`, `parse` and `serve`.  A command line is first read as an
invocation; running it gives an exit code, standard output, the log, and for `serve` the address to
listen on.

The help texts are left out, and with them `--help`, which no grammar declares.
-/

namespace Positional.CommandLine

inductive Key where
  | templateFile
  | typed
  | untyped
  | debug
  | verbose
  | host
  | port
deriving DecidableEq

def debugOption : Declared Key := ⟨.debug, "--debug", none, false⟩

/-- The options of `format`.  Words that only look like options are kept, so that negative numbers
can be arguments. -/
def formatGrammar : Grammar Key where
  options :=
    [⟨.templateFile, "--template-file", some 'f', true⟩,
      ⟨.typed, "--typed", none, false⟩,
      ⟨.untyped, "--no-typed", none, false⟩,
      debugOption,
      ⟨.verbose, "--verbose", none, false⟩]
  keepsUnknown := true

def parseGrammar : Grammar Key := ⟨[debugOption], false⟩

def serveGrammar : Grammar Key :=
  ⟨[⟨.host, "--host", none, true⟩, ⟨.port, "--port", none, true⟩, debugOption], false⟩

def versionGrammar : Grammar Key := ⟨[], false⟩

structure FormatCall where
  template : Option String
  arguments : List String
  templateFile : Option String
  typed : Bool
  debug : Bool
  verbose : Bool
deriving DecidableEq

inductive Invocation where
  | version
  | format (call : FormatCall)
  | parse (template : String) (debug : Bool)
  | serve (host : Option String) (port : Option Int) (debug : Bool)
deriving DecidableEq

namespace Invocation

/-- The last use of the two options that turn typed reading on and off decides. -/
def isTyped (uses : List (Use Key)) : Bool :=
  uses.foldl
    (fun typed use =>
      if use.key = .typed then true else if use.key = .untyped then false else typed) false

/-- Read a path, in its plain form.  No path has a null character in it. -/
def readPath (text : String) : Except UsageError String :=
  if text.toList.contains '\x00' then .error {} else .ok (Path.plain text)

def readFormat (words : List String) : Except UsageError Invocation := do
  let scanned ← formatGrammar.scan words
  let templateFile ← (scanned.last? .templateFile).mapM readPath
  return .format
    { template := scanned.positionals.head?
      arguments := scanned.positionals.tail
      templateFile := templateFile
      typed := isTyped scanned.uses
      debug := scanned.has .debug
      verbose := scanned.has .verbose }

def readParse (words : List String) : Except UsageError Invocation := do
  let scanned ← parseGrammar.scan words
  match scanned.positionals with
  | [template] => return .parse template (scanned.has .debug)
  | _ => .error {}

/-- Read a port number.  The conversion is the lax one of the validation library, and not the
lenient one that settings go through: `8000.0` and `0-5` are taken, digits of other scripts are
not. -/
def readPort (text : String) : Except UsageError Int :=
  match Numeral.lax? text.toList with
  | some port => .ok port
  | none => .error {}

def readServe (words : List String) : Except UsageError Invocation := do
  let scanned ← serveGrammar.scan words
  if !scanned.positionals.isEmpty then .error {}
  else
    let port ← (scanned.last? .port).mapM readPort
    return .serve (scanned.last? .host) port (scanned.has .debug)

def readVersion (words : List String) : Except UsageError Invocation := do
  let scanned ← versionGrammar.scan words
  if scanned.positionals.isEmpty then return .version else .error {}

def readCommand (name : String) (words : List String) : Except UsageError Invocation :=
  if name = "version" then readVersion words
  else if name = "format" then readFormat words
  else if name = "parse" then readParse words
  else if name = "serve" then readServe words
  else .error {}

/-- Read a command line.  A double dash may stand before the command. -/
def read : List String → Except UsageError Invocation
  | "--" :: name :: words => readCommand name words
  | name :: words => readCommand name words
  | [] => .error {}

end Invocation

structure Address where
  host : String
  port : Int
deriving DecidableEq

structure Run where
  exitCode : Nat
  output : String
  entries : List Log.Entry
  escaped : Option Fault
  address : Option Address
deriving DecidableEq

/-- Why a command stops early: it asks for an exit code, or a fault escapes from it. -/
inductive Stop where
  | exit (code : Nat)
  | fault (fault : Fault)
  /-- a fault escapes when part of the output was printed already -/
  | interrupted (printed : String) (fault : Fault)
deriving DecidableEq

abbrev Work (α : Type) := ExceptT Stop Logged α

namespace Work

def log (level : Log.Level) (message : String) : Work Unit :=
  ExceptT.lift (Logged.write level message)

def abort {α : Type} (message : String) : Work α := do
  log .error message
  throw (.exit 1)

/-- Go on with the result of a logged operation; its fault escapes. -/
def ofLogged {α : Type} (run : Logged (Except Fault α)) : Work α :=
  ExceptT.mk (run >>= fun result => pure (result.mapError Stop.fault))

end Work

def feature (registry : Registry) (name : String) : Work Feature :=
  match registry.find? name with
  | some feature => pure feature
  | none => Work.abort ("Unknown feature: " ++ name)

def logDiagnostics : List Diagnostic → Work Unit
  | [] => pure ()
  | diagnostic :: rest => do
    match diagnostic.payload.toValue.quoted with
    | .ok text => Work.log .verbose ("  " ++ text)
    | .error fault => throw (.fault fault)
    logDiagnostics rest

/-- The report of an answer; a rejection is logged and ends the command. -/
def report (name : String) : Answer → Work Report
  | .outcome (.completed report) => pure report
  | .outcome (.rejected error diagnostics) => do
    Work.log .error (name ++ " failed: " ++ (if error = "" then "Unknown error" else error))
    logDiagnostics diagnostics
    throw (.exit 1)
  | .plain data => throw (.fault (.noAttribute data.typeName "success"))

def call (env : Environment) (registry : Registry) (name : String) (keywords : Keywords) :
    Work Report := do
  let found ← feature registry name
  let answer ← Work.ofLogged (found.handler env keywords)
  report name answer

def runVersion (env : Environment) (registry : Registry) : Work String := do
  let shown := match ← call env registry "version" .none with
    | .version text => text
    | _ => "unknown"
  Work.log .info ("posfmt version: " ++ shown)
  return ""

def templateOfFile (readFile : String → Except FileFault (List UInt8)) (path : String) :
    Work String :=
  match readFile path with
  | .ok bytes =>
    match fileText bytes with
    | .ok text => pure text
    | .error fault => throw (.fault fault)
  | .error .missing => Work.abort ("File not found: " ++ path)
  | .error (.system number reason) =>
    Work.abort ("Error reading file " ++ path ++ ": [Errno " ++ Nat.repr number ++ "] " ++ reason ++
      ": " ++ Text.Quoted.quote path)

/-- The template of a call and its arguments.  With a template file every positional argument is an
argument of the template. -/
def templateAndArguments (readFile : String → Except FileFault (List UInt8))
    (call : FormatCall) : Work (String × List String) :=
  match call.templateFile, call.template with
  | some path, first => do
    let template ← templateOfFile readFile path
    return (template, first.toList ++ call.arguments)
  | none, some template => return (template, call.arguments)
  | none, none => Work.abort "A template or --template-file is required"

/-- Substitute arguments into a template and print the text, which must have bytes. -/
def runFormat (env : Environment) (registry : Registry)
    (readFile : String → Except FileFault (List UInt8)) (invoked : FormatCall) : Work String := do
  let (template, arguments) ← templateAndArguments readFile invoked
  Work.log .debug ("Formatting with " ++ Nat.repr arguments.length ++ " arguments")
  match ← call env registry "format"
      (.ofFormat template (arguments.map Value.ofString) invoked.typed) with
  | .formatted text _ =>
    match text.encode with
    | .ok shown => return shown ++ "\n"
    | .error fault => throw (.fault fault)
  | _ => throw (.fault (.missingField "result"))

def alignLeft (width : Nat) (text : String) : String :=
  text ++ String.ofList (List.replicate (width - text.length) ' ')

def printLines (lines : List String) : String :=
  String.join (lines.map (· ++ "\n"))

def segmentLine : Segment → String
  | .literal text => "  literal      " ++ Text.Quoted.quote text
  | .placeholder index position =>
    "  placeholder  " ++ alignLeft 6 (Numeral.text index) ++ " at " ++
      ((position.map Numeral.text).getD "None")

def requiredLine (required : String) : String :=
  "Required arguments: " ++ required

/-- Print a parsed template.  The number of arguments it needs is one more than its largest index,
so it can have a digit too many to be printed where every index has not. -/
def printTemplate (template : Template) : Work String :=
  let lines := template.segments.map segmentLine
  match Numeral.write template.required with
  | .ok required => return printLines (lines ++ [requiredLine required])
  | .error fault => throw (.interrupted (printLines lines) fault)

def runParse (env : Environment) (registry : Registry) (template : String) : Work String := do
  match ← call env registry "parse" (.ofTemplate template) with
  | .parsed parsed => printTemplate parsed
  | _ => throw (.fault (.missingField "segments"))

/-- The address to listen on.  An empty host and the port zero count as not given. -/
def serveAddress (env : Environment) (host : Option String) (port : Option Int) :
    Logged Address := do
  let chosenHost := match host with
    | some given => if given = "" then Settings.host env else given
    | none => Settings.host env
  let chosenPort ← match port with
    | some given => if given = 0 then Settings.port env else pure given
    | none => Settings.port env
  return ⟨chosenHost, chosenPort⟩

def runServe (env : Environment) (host : Option String) (port : Option Int) : Work Address := do
  let address ← ExceptT.lift (serveAddress env host port)
  let place := address.host ++ ":" ++ Numeral.text address.port
  Work.log .info ("Starting posfmt API server version " ++ version ++ " on " ++ place)
  Work.log .info ("API documentation available at http://" ++ place ++ "/docs")
  return address

namespace Run

def usageError : Run :=
  ⟨2, "", [], none, none⟩

/-- How a command ended, from what its work came to; where it stopped early it has no output but
what was printed by then. -/
def ofWork (threshold : Log.Level) (work : Work (String × Option Address)) : Run :=
  let logged := work.run
  let entries := Log.filter threshold logged.entries
  match logged.result with
  | .ok (output, address) => ⟨0, output, entries, none, address⟩
  | .error (.exit code) => ⟨code, "", entries, none, none⟩
  | .error (.fault fault) => ⟨1, "", entries, some fault, none⟩
  | .error (.interrupted printed fault) => ⟨1, printed, entries, some fault, none⟩

end Run

def Invocation.threshold : Invocation → Log.Level
  | version => Log.threshold false false
  | format call => Log.threshold call.debug call.verbose
  | parse _ debug => Log.threshold debug false
  | serve _ _ debug => Log.threshold debug false

def Invocation.work (env : Environment) (registry : Registry)
    (readFile : String → Except FileFault (List UInt8)) :
    Invocation → Work (String × Option Address)
  | version => do return (← runVersion env registry, none)
  | format call => do return (← runFormat env registry readFile call, none)
  | parse template _ => do return (← runParse env registry template, none)
  | serve host port _ => do return ("", some (← runServe env host port))

def Invocation.run (env : Environment) (registry : Registry)
    (readFile : String → Except FileFault (List UInt8)) (invocation : Invocation) : Run :=
  Run.ofWork invocation.threshold (invocation.work env registry readFile)

def run (env : Environment) (registry : Registry)
    (readFile : String → Except FileFault (List UInt8)) (words : List String) : Run :=
  match Invocation.read words with
  | .error _ => .usageError
  | .ok invocation => invocation.run env registry readFile

end Positional.CommandLine
