import Positional.Proofs.CommandLine.Format

/-!
# The address to listen on

Only the serve command ends with an address.  Its host is never empty, and the environment never
gives a port below one.  A port on the command line is not held to that: zero counts as not given,
but a negative port is passed on.
-/

namespace Positional

namespace Settings

/-- The integer that a variable holds, where it can be read and is large enough, or the default. -/
def integerOr (value : Option String) (default minimum : Int) : Int :=
  match Numeral.lenient? (stripped value).toList with
  | some i => if minimum ≤ i then i else default
  | none => default

theorem result_integer (name : String) (value : Option String) (default minimum : Int) :
    (integer name value default minimum).result = integerOr value default minimum := by
  unfold integer integerOr
  dsimp only
  by_cases hblank : stripped value = ""
  · rw [if_pos hblank, hblank]
    rfl
  · rw [if_neg hblank, readInteger]
    cases Numeral.lenient? (stripped value).toList with
    | none => rfl
    | some i =>
        dsimp only
        by_cases hsmall : i < minimum
        · rw [if_pos hsmall, if_neg (by omega)]
          rfl
        · rw [if_neg hsmall, if_pos (by omega)]
          rfl

theorem host_ne_empty (env : Environment) : host env ≠ "" := by
  unfold host
  dsimp only
  by_cases hblank : stripped env.host = ""
  · rw [if_pos hblank]
    decide
  · rwa [if_neg hblank]

end Settings

namespace CommandLine

variable {env : Environment} {registry : Registry} {address : Address}
variable {readFile : String → Except FileFault (List UInt8)}

/-! ## Runs that end with an address -/

theorem address_ofWork_text (threshold : Log.Level) (work : Work String) :
    (Run.ofWork threshold (do return (← work, none))).address = none := by
  cases hresult : work.result with
  | ok text =>
      obtain ⟨entries, hrun⟩ := @Run.ofWork_ok threshold (do return (← work, none)) text none
        (Work.result_bind_ok hresult _)
      rw [hrun]
  | error stop =>
      obtain ⟨entries, hrun⟩ := @Run.ofWork_error threshold (do return (← work, none)) stop
        (Work.result_bind_error hresult _)
      rw [hrun]

theorem exists_serve_of_address {invocation : Invocation}
    (h : (invocation.run env registry readFile).address = some address) :
    ∃ host port debug, invocation = .serve host port debug := by
  cases invocation with
  | serve host port debug => exact ⟨host, port, debug, rfl⟩
  | version =>
      rw [Invocation.run, Invocation.work, address_ofWork_text] at h
      cases h
  | format call =>
      rw [Invocation.run, Invocation.work, address_ofWork_text] at h
      cases h
  | parse template debug =>
      rw [Invocation.run, Invocation.work, address_ofWork_text] at h
      cases h

/-! ## Hosts and ports -/

/-- The port that the environment sets, where it can be read and is at least one, or the default. -/
def environmentPort (env : Environment) : Int :=
  Settings.integerOr env.port Settings.defaultPort 1

theorem result_port (env : Environment) : (Settings.port env).result = environmentPort env :=
  Settings.result_integer Environment.portName env.port Settings.defaultPort 1

theorem one_le_environmentPort (env : Environment) : 1 ≤ environmentPort env := by
  rw [← result_port]
  exact Settings.integer_ge (by decide)

/-- The port that is given, where it is at least one, or else that of the environment. -/
def usablePort (env : Environment) : Option Int → Int
  | some given => if 1 ≤ given then given else environmentPort env
  | none => environmentPort env

theorem one_le_usablePort (env : Environment) (port : Option Int) : 1 ≤ usablePort env port := by
  cases port with
  | none => exact one_le_environmentPort env
  | some given =>
      dsimp only [usablePort]
      by_cases hgiven : 1 ≤ given
      · rwa [if_pos hgiven]
      · rw [if_neg hgiven]
        exact one_le_environmentPort env

/-- The host that is given, unless it is empty, or else that of the environment. -/
def chosenHost (env : Environment) : Option String → String
  | some given => if given = "" then Settings.host env else given
  | none => Settings.host env

theorem chosenHost_ne_empty (env : Environment) (host : Option String) :
    chosenHost env host ≠ "" := by
  cases host with
  | none => exact Settings.host_ne_empty env
  | some given =>
      dsimp only [chosenHost]
      by_cases hempty : given = ""
      · rw [if_pos hempty]
        exact Settings.host_ne_empty env
      · rwa [if_neg hempty]

theorem serveAddress_host (env : Environment) (host : Option String) (port : Option Int) :
    (serveAddress env host port).result.host = chosenHost env host := by
  unfold serveAddress
  cases port with
  | none => rfl
  | some given =>
      by_cases hzero : given = 0
      · simp only [if_pos hzero]
        rfl
      · simp only [if_neg hzero]
        rfl

theorem serveAddress_port_of_ne_zero {given : Int} (env : Environment) (host : Option String)
    (hzero : given ≠ 0) : (serveAddress env host (some given)).result.port = given := by
  simp [serveAddress, hzero]

theorem serveAddress_port_of_nonneg {port : Option Int} (env : Environment) (host : Option String)
    (hport : ∀ given, port = some given → 0 ≤ given) :
    (serveAddress env host port).result.port = usablePort env port := by
  cases port with
  | none =>
      rw [usablePort, ← result_port]
      rfl
  | some given =>
      have hgiven := hport given rfl
      dsimp only [usablePort]
      by_cases hzero : given = 0
      · rw [if_neg (by omega), ← result_port, hzero]
        rfl
      · rw [if_pos (by omega)]
        exact serveAddress_port_of_ne_zero env host hzero

theorem one_le_serveAddress_port_iff (env : Environment) (host : Option String)
    (port : Option Int) :
    1 ≤ (serveAddress env host port).result.port ↔ ∀ given, port = some given → 0 ≤ given := by
  constructor
  · rintro hone given rfl
    by_contra hneg
    rw [serveAddress_port_of_ne_zero env host (by omega)] at hone
    omega
  · intro hport
    rw [serveAddress_port_of_nonneg env host hport]
    exact one_le_usablePort env port

/-! ## Runs of the serve command -/

theorem run_serve (env : Environment) (registry : Registry)
    (readFile : String → Except FileFault (List UInt8)) (host : Option String) (port : Option Int)
    (debug : Bool) :
    ∃ entries, (Invocation.serve host port debug).run env registry readFile =
      ⟨0, "", entries, none, some (serveAddress env host port).result⟩ :=
  Run.ofWork_ok rfl

theorem exists_serve_of_run {words : List String}
    (h : (run env registry readFile words).address = some address) :
    ∃ host port debug, Invocation.read words = .ok (.serve host port debug) ∧
      (serveAddress env host port).result = address := by
  unfold run at h
  cases hread : Invocation.read words with
  | error problem =>
      rw [hread] at h
      cases h
  | ok invocation =>
      rw [hread] at h
      obtain ⟨host, port, debug, rfl⟩ := exists_serve_of_address h
      obtain ⟨entries, hrun⟩ := run_serve env registry readFile host port debug
      refine ⟨host, port, debug, rfl, ?_⟩
      dsimp only at h
      rw [hrun] at h
      exact Option.some.inj h

/-- Where a run ends with an address, the command is to serve and the host is not empty.  The port
is the usable one, and at least one, exactly where no negative port is given; a negative port is
listened on as it is. -/
theorem address_usable_iff (env : Environment) (registry : Registry)
    (readFile : String → Except FileFault (List UInt8)) {words : List String}
    (h : (run env registry readFile words).address = some address) :
    ∃ host port debug, Invocation.read words = .ok (.serve host port debug) ∧
      address.host = chosenHost env host ∧ address.host ≠ "" ∧
      (1 ≤ address.port ↔ ∀ given, port = some given → 0 ≤ given) ∧
      ((∀ given, port = some given → 0 ≤ given) → address.port = usablePort env port) ∧
      ∀ given, port = some given → given < 0 → address.port = given := by
  obtain ⟨host, port, debug, hread, rfl⟩ := exists_serve_of_run h
  have hhost := serveAddress_host env host port
  refine ⟨host, port, debug, hread, hhost, ?_, one_le_serveAddress_port_iff env host port,
    serveAddress_port_of_nonneg env host, ?_⟩
  · rw [hhost]
    exact chosenHost_ne_empty env host
  · rintro given rfl hneg
    exact serveAddress_port_of_ne_zero env host (by omega)

theorem address_usable_port_zero :
    let env : Environment := ⟨none, some " ", some " 8080\n"⟩
    let words := ["serve", "--host", "", "--port", "0"]
    (run env .shipped (fun _ => .error .missing) words).address = some ⟨"127.0.0.1", 8080⟩ ∧
      ∃ host port debug, Invocation.read words = .ok (.serve host port debug) ∧
        8080 = usablePort env port := by
  intro env words
  have haddress : (run env .shipped (fun _ => .error .missing) words).address =
      some ⟨"127.0.0.1", 8080⟩ := by
    decide +kernel
  obtain ⟨host, port, debug, hread, -, -, hone, husable, -⟩ :=
    address_usable_iff env .shipped (fun _ => .error .missing) haddress
  exact ⟨haddress, host, port, debug, hread, husable (hone.mp (by decide))⟩

/-- A negative port is listened on, where the usable port is the default. -/
theorem negative_port_served :
    (run .empty .shipped (fun _ => .error .missing) ["serve", "--port", "-5"]).address =
        some ⟨"127.0.0.1", -5⟩ ∧
      usablePort .empty (some (-5)) = 8000 := by
  constructor
  · decide +kernel
  · rfl

end CommandLine

end Positional
