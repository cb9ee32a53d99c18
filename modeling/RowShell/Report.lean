/-
Reports: what an operation logs and how it ends.

A report holds the entries that an operation wrote to the log, in order, and its answer
or the fault that ended it.  One operation after another keeps the entries of the first
even if the second fails.
-/
import RowShell.Fault

namespace RowShell

inductive Level where
  | info
  | warning
  | error
  deriving DecidableEq

def Level.name : Level → String
  | .info => "INFO"
  | .warning => "WARNING"
  | .error => "ERROR"

/-- A line of the log. -/
structure Entry where
  level : Level
  text : String
  deriving DecidableEq

structure Report (α : Type) where
  log : List Entry
  outcome : Except Fault α

namespace Report

variable {α β : Type}

protected def pure (a : α) : Report α := ⟨[], .ok a⟩

protected def bind (r : Report α) (next : α → Report β) : Report β :=
  match r.outcome with
  | .ok a => ⟨r.log ++ (next a).log, (next a).outcome⟩
  | .error fault => ⟨r.log, .error fault⟩

instance : Monad Report where
  pure := Report.pure
  bind := Report.bind

/-- Ends with a fault. -/
def fail (fault : Fault) : Report α := ⟨[], .error fault⟩

/-- Logs nothing. -/
def ofExcept (outcome : Except Fault α) : Report α := ⟨[], outcome⟩

instance : MonadLift (Except Fault) Report := ⟨ofExcept⟩

/-- Logs one entry. -/
def entry (level : Level) (text : String) : Report Unit := ⟨[⟨level, text⟩], .ok ()⟩

/-- Goes on after a refusal, which is the only kind of fault that is handled. -/
def afterRefusal (r : Report α) (next : Fault → Report α) : Report α :=
  match r.outcome with
  | .error fault =>
    if fault.isRefusal then ⟨r.log ++ (next fault).log, (next fault).outcome⟩ else r
  | .ok _ => r

@[simp] theorem outcome_pure (a : α) : (pure a : Report α).outcome = .ok a := rfl

@[simp] theorem log_pure (a : α) : (pure a : Report α).log = [] := rfl

/-- The outcome of two operations is that of the second on the answer of the first. -/
@[simp] theorem outcome_bind (r : Report α) (next : α → Report β) :
    (r >>= next).outcome = r.outcome >>= fun a => (next a).outcome := by
  change (Report.bind r next).outcome = _
  unfold Report.bind
  cases h : r.outcome <;> rfl

@[simp] theorem outcome_ofExcept (outcome : Except Fault α) :
    (ofExcept outcome).outcome = outcome := rfl

@[simp] theorem outcome_liftM (outcome : Except Fault α) :
    (liftM outcome : Report α).outcome = outcome := rfl

@[simp] theorem outcome_fail (fault : Fault) : (fail fault : Report α).outcome = .error fault := rfl

@[simp] theorem outcome_entry (level : Level) (text : String) :
    (entry level text).outcome = .ok () := rfl

end Report

end RowShell
