/-
Dialogues with a shell.

An operation asks a shell to run scripts and goes on with what it answers.  A dialogue
is such an operation without the shell: it has either ended with a report, or it makes
a call and says how it goes on for every answer.  What an operation asks and what it
makes of the answers can so be told from the dialogue alone.

An executor answers calls.  Running a dialogue hands its calls to an executor in order
and puts the log of the executor where the call stands in the log of the dialogue.
-/
import RowShell.Report

namespace RowShell

/-- How a script is run: whether it may change the database, and whether its results are
printed as JSON. -/
structure Mode where
  readOnly : Bool
  json : Bool
  deriving DecidableEq

namespace Mode

def read : Mode := ⟨true, false⟩

def readJson : Mode := ⟨true, true⟩

def write : Mode := ⟨false, false⟩

/-- The flags of the shell. -/
def flags (mode : Mode) : List String :=
  (if mode.readOnly then ["-readonly"] else []) ++ if mode.json then ["-json"] else []

end Mode

/-- A script to be run on a database. -/
structure Call where
  target : String
  script : String
  mode : Mode
  deriving DecidableEq

/-- Answers a call with the output of the script, or with nothing if it could not be run. -/
abbrev Executor (σ : Type) := Call → σ → Report (Option String) × σ

inductive Dialogue (α : Type) where
  | finish (report : Report α)
  | ask (log : List Entry) (call : Call) (next : Option String → Dialogue α)

namespace Dialogue

variable {α β σ : Type}

/-- A dialogue after entries of the log. -/
def after (log : List Entry) : Dialogue α → Dialogue α
  | .finish report => .finish ⟨log ++ report.log, report.outcome⟩
  | .ask own call next => .ask (log ++ own) call next

protected def bind (d : Dialogue α) (next : α → Dialogue β) : Dialogue β :=
  match d with
  | .finish report =>
    match report.outcome with
    | .ok a => (next a).after report.log
    | .error fault => .finish ⟨report.log, .error fault⟩
  | .ask log call resume => .ask log call fun answer => (resume answer).bind next

instance : Monad Dialogue where
  pure a := .finish (pure a)
  bind := Dialogue.bind

instance : MonadLift Report Dialogue := ⟨.finish⟩

/-- Makes one call. -/
def call (c : Call) : Dialogue (Option String) := .ask [] c fun answer => .finish (pure answer)

/-- Runs a dialogue. -/
def run (executor : Executor σ) : Dialogue α → σ → Report α × σ
  | .finish report, s => (report, s)
  | .ask log call next, s =>
    match executor call s with
    | (⟨own, .error fault⟩, s) => (⟨log ++ own, .error fault⟩, s)
    | (⟨own, .ok answer⟩, s) =>
      let (report, s) := (next answer).run executor s
      (⟨log ++ own ++ report.log, report.outcome⟩, s)

end Dialogue

/-- Prepared answers, and the calls that were answered so far. -/
structure Rehearsal where
  answers : List (Option String)
  calls : List Call

namespace Rehearsal

/-- Answers with the prepared answers in order, and with empty output after the last. -/
def executor : Executor Rehearsal := fun call r =>
  match r.answers with
  | [] => (pure (some ""), ⟨[], r.calls ++ [call]⟩)
  | answer :: rest => (pure answer, ⟨rest, r.calls ++ [call]⟩)

end Rehearsal

end RowShell
