/-
How dialogues end, and what they ask.

Running a dialogue threads the state of the executor through its calls and puts the log
together.  How the dialogue ends does not depend on the log, so the lemmas here leave it
out: the outcome of a sequence is that of the second part on the answer of the first, run
from the state that the first one left.  The calls of a sequence are put together in the same
way.

A rehearsal answers from a queue.  `run_take` says that a dialogue sees of it no more than the
answers to its own calls, which is why dialogues that are run one after another cannot
disturb each other.
-/
import RowShell.Dialogue
import RowShell.Proofs.Outcome

namespace RowShell.Dialogue

variable {α β σ : Type} (executor : Executor σ) (s : σ)

/-! ### Outcomes -/

@[simp] theorem outcome_run_liftM (report : Report α) :
    ((liftM report : Dialogue α).run executor s).1.outcome = report.outcome := rfl

@[simp] theorem state_run_liftM (report : Report α) :
    ((liftM report : Dialogue α).run executor s).2 = s := rfl

theorem run_call (c : Call) : ((call c).run executor s).1.outcome = (executor c s).1.outcome ∧
    ((call c).run executor s).2 = (executor c s).2 := by
  rw [call, run]
  split
  · next heq =>
      rw [heq]
      exact ⟨rfl, rfl⟩
  · next heq =>
      rw [heq]
      exact ⟨rfl, rfl⟩

@[simp] theorem outcome_run_call (c : Call) :
    ((call c).run executor s).1.outcome = (executor c s).1.outcome := (run_call executor s c).1

@[simp] theorem state_run_call (c : Call) :
    ((call c).run executor s).2 = (executor c s).2 := (run_call executor s c).2

theorem run_after (log : List Entry) (d : Dialogue α) :
    ((d.after log).run executor s).1.outcome = (d.run executor s).1.outcome := by
  cases d with
  | finish report => rfl
  | ask own call next =>
      rw [after, run, run]
      split <;> rfl

/-- **The outcome of two dialogues** is that of the second on the answer of the first, from
the state that the first one left. -/
@[simp] theorem outcome_run_bind (d : Dialogue α) (next : α → Dialogue β) :
    ((d >>= next).run executor s).1.outcome =
      (d.run executor s).1.outcome >>= fun a =>
        ((next a).run executor (d.run executor s).2).1.outcome := by
  change ((Dialogue.bind d next).run executor s).1.outcome = _
  induction d generalizing s with
  | finish report =>
      rw [Dialogue.bind, run]
      cases report.outcome with
      | error fault => rfl
      | ok a => exact run_after executor s report.log (next a)
  | ask log call resume ih =>
      rw [Dialogue.bind, run, run]
      split
      · rfl
      · exact ih _ _

/-- What an executor answers calls that are made one after another. -/
def replies (executor : Executor σ) : List Call → σ → List (Except Fault (Option String))
  | [], _ => []
  | call :: rest, s => (executor call s).1.outcome :: replies executor rest (executor call s).2

/-! ### Calls -/

/-- The calls that a dialogue makes of an executor, in order. -/
def calls : Dialogue α → σ → List Call
  | .finish _, _ => []
  | .ask _ call next, s =>
    call :: match (executor call s).1.outcome with
      | .ok answer => (next answer).calls (executor call s).2
      | .error _ => []

/-- A call and what follows its answer. -/
theorem run_ask (log : List Entry) (call : Call) (next : Option String → Dialogue α) (s : σ) :
    ((ask log call next).run executor s).1.outcome =
        ((executor call s).1.outcome >>= fun answer =>
          ((next answer).run executor (executor call s).2).1.outcome) ∧
      ((ask log call next).run executor s).2 = match (executor call s).1.outcome with
        | .ok answer => ((next answer).run executor (executor call s).2).2
        | .error _ => (executor call s).2 := by
  rw [run]
  rcases executor call s with ⟨⟨own, fault | answer⟩, s'⟩
  · exact ⟨rfl, rfl⟩
  · exact ⟨rfl, rfl⟩

@[simp] theorem calls_liftM (report : Report α) : (liftM report : Dialogue α).calls executor s = [] := rfl

@[simp] theorem calls_call (c : Call) : (call c).calls executor s = [c] := by
  rw [call, calls]
  split <;> rfl

theorem calls_after (log : List Entry) (d : Dialogue α) :
    (d.after log).calls executor s = d.calls executor s := by
  cases d with
  | finish report => rfl
  | ask own call next => rw [after, calls, calls]

/-- **The calls of two dialogues** are those of the first and then those of the second. -/
theorem calls_bind (d : Dialogue α) (next : α → Dialogue β) :
    (d >>= next).calls executor s = d.calls executor s ++
      match (d.run executor s).1.outcome with
      | .ok a => (next a).calls executor (d.run executor s).2
      | .error _ => [] := by
  show (Dialogue.bind d next).calls executor s = _
  induction d generalizing s with
  | finish report =>
      rw [Dialogue.bind, run, calls, List.nil_append]
      cases report.outcome with
      | error fault => rfl
      | ok a => exact calls_after executor s report.log (next a)
  | ask log call resume ih =>
      rw [Dialogue.bind, calls, calls, List.cons_append, (run_ask executor log call _ s).1,
        (run_ask executor log call _ s).2]
      cases (executor call s).1.outcome with
      | error fault => rfl
      | ok answer =>
          show call :: (Dialogue.bind (resume answer) next).calls executor _ = _
          rw [ih answer]
          rfl

/-- What makes no calls adds none. -/
theorem calls_bind_of_quiet {d : Dialogue α} {next : α → Dialogue β}
    (h : ∀ a s, (next a).calls executor s = []) :
    (d >>= next).calls executor s = d.calls executor s := by
  rw [calls_bind]
  cases (d.run executor s).1.outcome with
  | error fault => simp
  | ok a => simp [h]

end RowShell.Dialogue

/-! ### Prepared answers -/

namespace RowShell.Rehearsal

open Dialogue

variable {α : Type}

theorem executor_answer (answers : List (Option String)) (calls : List Call) (call : Call) :
    executor call ⟨answers, calls⟩ =
      (pure (answers.head?.getD (some "")), ⟨answers.tail, calls ++ [call]⟩) := by
  cases answers <;> rfl

/-- **A dialogue uses one answer for each of its calls**, and its calls are recorded in order. -/
theorem state_run (d : Dialogue α) (r : Rehearsal) :
    (d.run executor r).2 =
      ⟨r.answers.drop (d.calls executor r).length, r.calls ++ d.calls executor r⟩ := by
  induction d generalizing r with
  | finish report => simp [run, Dialogue.calls]
  | ask log call next ih =>
      rw [(run_ask executor log call next r).2, Dialogue.calls]
      simp [executor_answer r.answers r.calls call, ih]

/-- **How a dialogue ends depends on the answers that it uses**, and on nothing else of the
rehearsal. -/
theorem run_take (d : Dialogue α) {answers : List (Option String)} {n : Nat} (calls calls' : List Call)
    (h : (d.calls executor ⟨answers, calls⟩).length ≤ n) :
    (d.run executor ⟨answers.take n, calls'⟩).1 = (d.run executor ⟨answers, calls⟩).1 := by
  induction d generalizing answers n calls calls' with
  | finish report => rfl
  | ask log call next ih =>
      rw [Dialogue.calls, executor_answer] at h
      simp only [Report.outcome_pure, List.length_cons] at h
      obtain ⟨n, rfl⟩ : ∃ m, n = m + 1 := ⟨n - 1, by omega⟩
      have hhead : (answers.take (n + 1)).head? = answers.head? := by
        cases answers <;> simp
      have htail : (answers.take (n + 1)).tail = answers.tail.take n := by
        cases answers <;> simp
      have hrest := ih (answers.head?.getD (some "")) (calls ++ [call]) (calls' ++ [call])
        (Nat.le_of_succ_le_succ h)
      rw [run, run, executor_answer, executor_answer, hhead, htail]
      show Report.mk _ _ = Report.mk _ _
      rw [hrest]

end RowShell.Rehearsal
