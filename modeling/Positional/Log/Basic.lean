/-!
# Log entries

Operations write log entries on the way to their result.  The result and the entries travel
together: a logged computation is a value with the entries written before it, in order.
-/

namespace Positional.Log

inductive Level where
  | debug
  | verbose
  | info
  | warning
  | error
deriving DecidableEq

namespace Level

/-- The rank of a level; higher is more serious. -/
def rank : Level → Nat
  | debug => 10
  | verbose => 15
  | info => 20
  | warning => 30
  | error => 40

def name : Level → String
  | debug => "DEBUG"
  | verbose => "VERBOSE"
  | info => "INFO"
  | warning => "WARNING"
  | error => "ERROR"

end Level

structure Entry where
  level : Level
  message : String
deriving DecidableEq

def Entry.passes (threshold : Level) (entry : Entry) : Bool :=
  threshold.rank ≤ entry.level.rank

def filter (threshold : Level) (entries : List Entry) : List Entry :=
  entries.filter (Entry.passes threshold)

def threshold (debug verbose : Bool) : Level :=
  if debug then .debug else if verbose then .verbose else .info

def serverThreshold (debug : Bool) : Level :=
  if debug then .debug else .warning

end Positional.Log

namespace Positional

/-- A result with the log entries written on the way to it. -/
structure Logged (α : Type) where
  result : α
  entries : List Log.Entry

namespace Logged

variable {α β : Type}

protected def pure (result : α) : Logged α :=
  ⟨result, []⟩

/-- Entries of the first computation come before those of the second. -/
protected def bind (first : Logged α) (next : α → Logged β) : Logged β :=
  ⟨(next first.result).result, first.entries ++ (next first.result).entries⟩

instance : Monad Logged where
  pure := Logged.pure
  bind := Logged.bind

def write (level : Log.Level) (message : String) : Logged Unit :=
  ⟨(), [⟨level, message⟩]⟩

@[simp] theorem result_pure (a : α) : (pure a : Logged α).result = a := rfl

@[simp] theorem entries_pure (a : α) : (pure a : Logged α).entries = [] := rfl

@[simp] theorem result_bind (x : Logged α) (f : α → Logged β) :
    (x >>= f).result = (f x.result).result := rfl

@[simp] theorem entries_bind (x : Logged α) (f : α → Logged β) :
    (x >>= f).entries = x.entries ++ (f x.result).entries := rfl

@[simp] theorem result_write (level : Log.Level) (message : String) :
    (write level message).result = () := rfl

@[simp] theorem entries_write (level : Log.Level) (message : String) :
    (write level message).entries = [⟨level, message⟩] := rfl

@[ext] theorem ext {x y : Logged α} (hresult : x.result = y.result)
    (hentries : x.entries = y.entries) : x = y := by
  cases x
  cases y
  simp_all

instance : LawfulMonad Logged :=
  LawfulMonad.mk' Logged
    (fun _ => ext rfl (List.append_nil _))
    (fun _ _ => rfl)
    (fun _ _ _ => ext rfl (List.append_assoc _ _ _))

@[simp] theorem result_map (f : α → β) (x : Logged α) : (f <$> x).result = f x.result := rfl

@[simp] theorem entries_map (f : α → β) (x : Logged α) : (f <$> x).entries = x.entries :=
  List.append_nil _

end Logged

end Positional
