import Positional.CommandLine.Basic
import Positional.Proofs.Value.Plain

/-!
# Runs of the format command

A command's work ends with a result or stops early, and how it stops decides the exit code.  The
format command prints the text that the feature of that name reports, and nothing where the feature
rejects its arguments or ends with a fault.
-/

namespace Positional

namespace CommandLine

variable {α β : Type}

/-! ## Work -/

namespace Work

def result (work : Work α) : Except Stop α :=
  work.run.result

@[simp] theorem result_pure (a : α) : (pure a : Work α).result = .ok a := rfl

@[simp] theorem result_log (level : Log.Level) (message : String) :
    (log level message).result = .ok () := rfl

@[simp] theorem result_throw (stop : Stop) : (throw stop : Work α).result = .error stop := rfl

@[simp] theorem result_ofLogged (run : Logged (Except Fault α)) :
    (ofLogged run).result = run.result.mapError Stop.fault := rfl

theorem result_bind_ok {work : Work α} {a : α} (h : work.result = .ok a) (next : α → Work β) :
    (work >>= next).result = (next a).result := by
  have hrun : work.run.result = .ok a := h
  simp [result, ExceptT.run_bind, hrun]

theorem result_bind_error {work : Work α} {stop : Stop} (h : work.result = .error stop)
    (next : α → Work β) : (work >>= next).result = .error stop := by
  have hrun : work.run.result = .error stop := h
  simp [result, ExceptT.run_bind, hrun]

end Work

def Stop.code : Stop → Nat
  | exit code => code
  | fault _ => 1
  | interrupted _ _ => 1

def Stop.printed : Stop → String
  | exit _ => ""
  | fault _ => ""
  | interrupted output _ => output

def Stop.escaped : Stop → Option Fault
  | exit _ => none
  | fault cause => some cause
  | interrupted _ cause => some cause

namespace Run

variable {threshold : Log.Level} {work : Work (String × Option Address)}

theorem ofWork_ok {output : String} {address : Option Address}
    (h : work.result = .ok (output, address)) :
    ∃ entries, ofWork threshold work = ⟨0, output, entries, none, address⟩ := by
  have hrun : work.run.result = .ok (output, address) := h
  exact ⟨_, by rw [ofWork, hrun]⟩

theorem ofWork_error {stop : Stop} (h : work.result = .error stop) :
    ∃ entries, ofWork threshold work =
      ⟨stop.code, stop.printed, entries, stop.escaped, none⟩ := by
  have hrun : work.run.result = .error stop := h
  cases stop with
  | exit code => exact ⟨_, by rw [ofWork, hrun]; rfl⟩
  | fault fault => exact ⟨_, by rw [ofWork, hrun]; rfl⟩
  | interrupted printed fault => exact ⟨_, by rw [ofWork, hrun]; rfl⟩

end Run

/-! ## Calls of features -/

variable {env : Environment} {registry : Registry} {name : String} {keywords : Keywords}
variable {found : Feature}

theorem result_logDiagnostics (diagnostics : List Diagnostic) :
    (logDiagnostics diagnostics).result = .ok () ∨
      ∃ fault, (logDiagnostics diagnostics).result = .error (.fault fault) := by
  induction diagnostics with
  | nil => exact .inl rfl
  | cons diagnostic rest ih =>
      rw [logDiagnostics]
      cases hquoted : diagnostic.payload.toValue.quoted with
      | error fault => exact .inr ⟨fault, Work.result_bind_error (Work.result_throw _) _⟩
      | ok text =>
          rw [Work.result_bind_ok (Work.result_log _ _)]
          exact ih

theorem result_logDiagnostics_plain {diagnostics : List Diagnostic}
    (h : ∀ diagnostic ∈ diagnostics, diagnostic.payload.toValue.IsPlain) :
    (logDiagnostics diagnostics).result = .ok () := by
  induction diagnostics with
  | nil => rfl
  | cons diagnostic rest ih =>
      obtain ⟨text, htext⟩ := (h diagnostic List.mem_cons_self).exists_quoted
      simp only [logDiagnostics, htext]
      rw [Work.result_bind_ok (Work.result_log _ _)]
      exact ih fun other hmem => h other (List.mem_cons_of_mem _ hmem)

theorem result_call (hfound : registry.find? name = some found) :
    (call env registry name keywords).result =
      match (found.handler env keywords).result with
      | .ok answer => (report name answer).result
      | .error fault => .error (.fault fault) := by
  have hfeature : (feature registry name).result = .ok found := by
    rw [feature, hfound]
    rfl
  rw [call, Work.result_bind_ok hfeature]
  cases hanswer : (found.handler env keywords).result with
  | ok answer =>
      refine Work.result_bind_ok ?_ _
      rw [Work.result_ofLogged, hanswer]
      rfl
  | error fault =>
      refine Work.result_bind_error ?_ _
      rw [Work.result_ofLogged, hanswer]
      rfl

theorem result_report_rejected (name error : String) (diagnostics : List Diagnostic) :
    ∃ stop, (report name (.outcome (.rejected error diagnostics))).result = .error stop ∧
      stop.code = 1 ∧ stop.printed = "" ∧
      ((∀ diagnostic ∈ diagnostics, diagnostic.payload.toValue.IsPlain) → stop.escaped = none) := by
  rw [report, Work.result_bind_ok (Work.result_log _ _)]
  rcases result_logDiagnostics diagnostics with hlogged | ⟨fault, hfault⟩
  · refine ⟨.exit 1, ?_, rfl, rfl, fun _ => rfl⟩
    rw [Work.result_bind_ok hlogged]
    rfl
  · refine ⟨.fault fault, Work.result_bind_error hfault _, rfl, rfl, fun hplain => ?_⟩
    rw [result_logDiagnostics_plain hplain] at hfault
    cases hfault

/-! ## The format command -/

/-- The words that call the format command with a template and its arguments, after a double dash so
that none of them is taken for an option. -/
def formatWords (typed : Bool) (template : String) (arguments : List String) : List String :=
  "format" :: ((if typed then ["--typed"] else []) ++ "--" :: template :: arguments)

/-- The call that the words of the command stand for, where its template file can be a path. -/
theorem read_format_of_scan {words : List String} {scanned : Scanned Key} (file : Option String)
    (hscan : formatGrammar.scan words = .ok scanned)
    (hfile : (scanned.last? .templateFile).mapM Invocation.readPath = .ok file) :
    Invocation.read ("format" :: words) =
      .ok (.format ⟨scanned.positionals.head?, scanned.positionals.tail, file,
        Invocation.isTyped scanned.uses, scanned.has .debug, scanned.has .verbose⟩) := by
  have hread : Invocation.read ("format" :: words) = Invocation.readFormat words := by
    cases words <;> rfl
  rw [hread, Invocation.readFormat, hscan]
  show (do
    let templateFile ← (scanned.last? .templateFile).mapM Invocation.readPath
    return Invocation.format ⟨scanned.positionals.head?, scanned.positionals.tail, templateFile,
      Invocation.isTyped scanned.uses, scanned.has .debug, scanned.has .verbose⟩) = _
  rw [hfile]
  rfl

theorem read_formatWords (typed : Bool) (template : String) (arguments : List String) :
    Invocation.read (formatWords typed template arguments) =
      .ok (.format ⟨some template, arguments, none, typed, false, false⟩) := by
  cases typed <;> rfl

variable {readFile : String → Except FileFault (List UInt8)}
variable {template : String} {arguments : List String} {typed : Bool} {debug verbose : Bool}

/-- With a template on the command line, the command's work is its call of the feature, whose text
must have bytes. -/
theorem result_runFormat :
    (runFormat env registry readFile
        ⟨some template, arguments, none, typed, debug, verbose⟩).result =
      match (call env registry "format"
        (.ofFormat template (arguments.map Value.ofString) typed)).result with
      | .ok (.formatted text _) =>
        match text.encode with
        | .ok shown => .ok (shown ++ "\n")
        | .error fault => .error (.fault fault)
      | .ok _ => .error (.fault (.missingField "result"))
      | .error stop => .error stop := by
  have htemplate : (templateAndArguments readFile
      ⟨some template, arguments, none, typed, debug, verbose⟩).result =
        .ok (template, arguments) := rfl
  rw [runFormat, Work.result_bind_ok htemplate]
  dsimp only
  rw [Work.result_bind_ok (Work.result_log _ _)]
  cases hcall : (call env registry "format"
      (.ofFormat template (arguments.map Value.ofString) typed)).result with
  | ok report =>
      rw [Work.result_bind_ok hcall]
      cases report with
      | formatted text count =>
          dsimp only
          cases text.encode <;> rfl
      | _ => rfl
  | error stop => rw [Work.result_bind_error hcall]

theorem run_formatWords_error {stop : Stop}
    (h : (runFormat env registry readFile
      ⟨some template, arguments, none, typed, false, false⟩).result = .error stop) :
    ∃ entries, run env registry readFile (formatWords typed template arguments) =
      ⟨stop.code, stop.printed, entries, stop.escaped, none⟩ := by
  rw [run, read_formatWords]
  exact Run.ofWork_error (Work.result_bind_error h _)

section

variable (readFile) (hfound : registry.find? "format" = some found)

include hfound

theorem result_call_completed {report : Report}
    (h : (found.handler env (.ofFormat template (arguments.map Value.ofString) typed)).result =
      .ok (.outcome (.completed report))) :
    (call env registry "format"
      (.ofFormat template (arguments.map Value.ofString) typed)).result = .ok report := by
  rw [result_call hfound, h]
  rfl

theorem run_formatWords_completed {text : String} {count : Nat}
    (h : (found.handler env (.ofFormat template (arguments.map Value.ofString) typed)).result =
      .ok (.outcome (.completed (.formatted text count)))) :
    ∃ entries, run env registry readFile (formatWords typed template arguments) =
      ⟨0, text ++ "\n", entries, none, none⟩ := by
  have hwork : (runFormat env registry readFile
      ⟨some template, arguments, none, typed, false, false⟩).result = .ok (text ++ "\n") := by
    rw [result_runFormat, result_call_completed hfound h]
    simp only [LooseText.encode_ofString]
  rw [run, read_formatWords]
  refine Run.ofWork_ok ?_
  rw [Invocation.work, Work.result_bind_ok hwork]
  rfl

theorem run_formatWords_unencodable {text : LooseText} {count : Nat} {fault : Fault}
    (h : (found.handler env (.ofFormat template (arguments.map Value.ofString) typed)).result =
      .ok (.outcome (.completed (.formatted text count))))
    (hfault : text.encode = .error fault) :
    ∃ entries, run env registry readFile (formatWords typed template arguments) =
      ⟨1, "", entries, some fault, none⟩ := by
  have hwork : (runFormat env registry readFile
      ⟨some template, arguments, none, typed, false, false⟩).result = .error (.fault fault) := by
    rw [result_runFormat, result_call_completed hfound h]
    simp only [hfault]
  exact run_formatWords_error hwork

theorem run_formatWords_rejected {error : String} {diagnostics : List Diagnostic}
    (h : (found.handler env (.ofFormat template (arguments.map Value.ofString) typed)).result =
      .ok (.outcome (.rejected error diagnostics))) :
    ∃ entries escaped, run env registry readFile (formatWords typed template arguments) =
        ⟨1, "", entries, escaped, none⟩ ∧
      ((∀ diagnostic ∈ diagnostics, diagnostic.payload.toValue.IsPlain) → escaped = none) := by
  obtain ⟨stop, hreport, hcode, hprinted, hescaped⟩ :=
    result_report_rejected "format" error diagnostics
  have hwork : (runFormat env registry readFile
      ⟨some template, arguments, none, typed, false, false⟩).result = .error stop := by
    rw [result_runFormat, result_call hfound, h]
    simp only [hreport]
  obtain ⟨entries, hrun⟩ := run_formatWords_error hwork
  rw [hcode, hprinted] at hrun
  exact ⟨entries, stop.escaped, hrun, hescaped⟩

/-- The command prints nothing where the feature ends with a fault, and the fault escapes. -/
theorem run_formatWords_fault {fault : Fault}
    (h : (found.handler env (.ofFormat template (arguments.map Value.ofString) typed)).result =
      .error fault) :
    ∃ entries, run env registry readFile (formatWords typed template arguments) =
      ⟨1, "", entries, some fault, none⟩ := by
  have hwork : (runFormat env registry readFile
      ⟨some template, arguments, none, typed, false, false⟩).result = .error (.fault fault) := by
    rw [result_runFormat, result_call hfound, h]
  exact run_formatWords_error hwork

end

end CommandLine

end Positional
