/-
Operations one after another.

The tables of a catalog share one executor, and a program uses them in any order.  A session is
a list of operations, each with its table, that are run one after another; an operation that
fails does not end it.  `perform_alone` says that the operations of a session cannot disturb each
other: each makes the calls and uses the answers that it would make and use alone, and ends as
it would end alone with those answers.

The step is an operation on its own.  It asks for its statement to be run if the statement can
be built, once, and asks for nothing otherwise, so the calls of an operation are known without
running it.  The run of a session is then an induction on its steps.
-/
import RowShell.Proofs.Failure

namespace RowShell

open Outcome

/-! ### Operations -/

/-- An operation on a table, with its arguments. -/
inductive Operation where
  | count (selection : Selection)
  | find (selection : Selection) (projection : List (String × Value))
  | insert (record : List (String × Value))
  | remove (selection : Selection)
  | update (selection : Selection) (record : List (String × Value))

/-- What an operation answers. -/
inductive Answer where
  | count (n? : Option Int)
  | rows (rows? : Option (List (List (String × Value))))
  | done (changed : Bool)

namespace Operation

/-- The operation on a table. -/
def on (table : Table) : Operation → Dialogue Answer
  | .count selection => return .count (← table.count selection)
  | .find selection projection => return .rows (← table.find selection projection)
  | .insert record => return .done (← table.insert record)
  | .remove selection => return .done (← table.remove selection)
  | .update selection record => return .done (← table.update selection record)

/-- The statement that an operation asks to be run. -/
def statement (table : Table) : Operation → Report (Option String)
  | .count selection => table.statement .count selection [] []
  | .find selection projection => table.statement .select selection projection []
  | .insert record => table.statement .insert (.filter []) [] record
  | .remove selection => table.statement .delete selection [] []
  | .update selection record => table.statement .update selection [] record

/-- How the statement is run. -/
def mode : Operation → Mode
  | .count _ => .read
  | .find _ _ => .readJson
  | _ => .write

/-- Whether the operation changes the table. -/
def IsChange : Operation → Prop
  | .count _ | .find _ _ => False
  | _ => True

/-- The answer if there is no output. -/
def nothing : Operation → Answer
  | .count _ => .count none
  | .find _ _ => .rows none
  | _ => .done false

/-- The calls of an operation on a table: one with its statement, if there is one. -/
def calls (table : Table) (op : Operation) : List Call :=
  match (op.statement table).outcome with
  | .ok (some sql) => [⟨table.target, sql, op.mode⟩]
  | _ => []

end Operation

/-! ### One operation -/

section

variable {σ β : Type} {executor : Executor σ} {s : σ} {table : Table} {mode : Mode}
  {statement : Report (Option String)} {next : Option (String × String) → Dialogue β}
  {wrap : β → Answer}

/-- A statement that was built is asked for, once. -/
theorem Table.calls_run : (table.run mode statement).calls executor s =
    match statement.outcome with
    | .ok (some sql) => [⟨table.target, sql, mode⟩]
    | _ => [] := by
  rw [run, Dialogue.calls_bind, Dialogue.calls_liftM, Dialogue.outcome_run_liftM, List.nil_append]
  rcases statement.outcome with fault | (- | sql)
  · rfl
  · rfl
  · dsimp only
    rw [Dialogue.calls_bind, Dialogue.calls_call, Dialogue.outcome_run_call]
    rcases (executor _ _).1.outcome with fault | (- | output)
    · rfl
    · rfl
    · rfl

/-- What is made of the output adds no call. -/
theorem calls_answer (hnext : ∀ answer? s, (next answer?).calls executor s = []) :
    (do return wrap (← table.run mode statement >>= next) : Dialogue Answer).calls executor s =
      match statement.outcome with
      | .ok (some sql) => [⟨table.target, sql, mode⟩]
      | _ => [] := by
  rw [Dialogue.calls_bind_of_quiet executor s fun _ _ => rfl,
    Dialogue.calls_bind_of_quiet executor s hnext, Table.calls_run]

/-- An answer is what is made of the output, or of the lack of it. -/
theorem outcome_answer {f : Option (String × String) → Except Fault Answer}
    (hnext : ∀ answer? s, ((next answer?).run executor s).1.outcome.map wrap = f answer?) :
    ((do return wrap (← table.run mode statement >>= next) : Dialogue Answer).run
        executor s).1.outcome =
      statement.outcome >>= fun sql? =>
        match sql? with
        | none => f none
        | some sql => (executor ⟨table.target, sql, mode⟩ s).1.outcome >>= fun output? =>
            f (output?.map fun output => (sql, output)) := by
  have hwrap : ∀ answer? s, (((next answer?).run executor s).1.outcome >>= fun b =>
      (.ok (wrap b) : Except Fault Answer)) = f answer? := by
    intro answer? s
    rw [← hnext answer? s]
    cases ((next answer?).run executor s).1.outcome <;> rfl
  rw [Dialogue.outcome_run_bind, Dialogue.outcome_run_bind, Table.outcome_run]
  rcases statement.outcome with fault | (- | sql)
  · rfl
  · exact hwrap none _
  · rw [ok_bind, ok_bind]
    dsimp only
    rcases (executor _ s).1.outcome with fault | output?
    · rfl
    · exact hwrap (output?.map fun output => (sql, output)) _

end

namespace Operation

/-- What an operation makes of a statement that was run with its output, or of the lack of it. -/
def answer (table : Table) (op : Operation) : Option (String × String) → Except Fault Answer
  | none => .ok op.nothing
  | some (sql, output) =>
    match op with
    | .count _ => .ok (.count (Numeral.readInt? (Text.trim output.toList)))
    | .find _ _ =>
      (Report.afterRefusal (do return some (← table.schema.readRows output))
        fun fault => table.refuse (fault.message ++ " [" ++ sql ++ "]")).outcome.map .rows
    | _ => .ok (.done true)

variable {σ : Type} (executor : Executor σ) (s : σ) {table : Table} (op : Operation)

/-- A change answers whether there was output. -/
theorem IsChange.answer_eq {op : Operation} (h : op.IsChange) (answer? : Option (String × String)) :
    op.answer table answer? = .ok (.done answer?.isSome) := by
  cases op with
  | count selection => exact absurd h id
  | find selection projection => exact absurd h id
  | _ => cases answer? <;> rfl

/-- **An operation makes the call of its statement**, whatever it is answered. -/
theorem calls_on : (op.on table).calls executor s = op.calls table := by
  cases op with
  | count selection =>
      refine calls_answer ?_
      intro answer? s
      rcases answer? with - | ⟨sql, output⟩
      · rfl
      · dsimp only
        split <;> rfl
  | find selection projection =>
      refine calls_answer ?_
      intro answer? s
      rcases answer? with - | ⟨sql, output⟩
      · rfl
      · rfl
  | insert record => exact calls_answer fun _ _ => rfl
  | remove selection => exact calls_answer fun _ _ => rfl
  | update selection record => exact calls_answer fun _ _ => rfl

/-- **An operation ends with what it makes of the output of its statement.** -/
theorem outcome_on : ((op.on table).run executor s).1.outcome =
    (op.statement table).outcome >>= fun sql? =>
      match sql? with
      | none => op.answer table none
      | some sql => (executor ⟨table.target, sql, op.mode⟩ s).1.outcome >>= fun output? =>
          op.answer table (output?.map fun output => (sql, output)) := by
  have hchange {op : Operation} (h : op.IsChange) (answer? : Option (String × String)) (s : σ) :
      ((pure answer?.isSome : Dialogue Bool).run executor s).1.outcome.map Answer.done =
        op.answer table answer? := by
    rw [h.answer_eq]
    rfl
  cases op with
  | count selection =>
      refine outcome_answer ?_
      intro answer? s
      rcases answer? with - | ⟨sql, output⟩
      · rfl
      · rw [answer]
        dsimp only
        cases Numeral.readInt? (Text.trim output.toList) with
        | none => rfl
        | some n => rfl
  | find selection projection =>
      refine outcome_answer ?_
      intro answer? s
      rcases answer? with - | ⟨sql, output⟩
      · rfl
      · rfl
  | insert record => exact outcome_answer (hchange (by trivial))
  | remove selection => exact outcome_answer (hchange (by trivial))
  | update selection record => exact outcome_answer (hchange (by trivial))

/-- The result of an operation that was given this answer, if it asked for one. -/
structure Returns (table : Table) (op : Operation) (reply : Option String)
    (outcome : Except Fault Answer) : Prop where
  fault : ∀ fault, (op.statement table).outcome = .error fault → outcome = .error fault
  unasked : (op.statement table).outcome = .ok none → outcome = .ok op.nothing
  unanswered : ∀ sql, (op.statement table).outcome = .ok (some sql) → reply = none →
    outcome = .ok op.nothing
  changed : op.IsChange → (outcome = .ok (.done true) ↔ op.calls table ≠ [] ∧ reply ≠ none)

theorem returns_on (answers : List (Option String)) (asked : List Call) :
    op.Returns table (answers.head?.getD (some ""))
      ((op.on table).run Rehearsal.executor ⟨answers, asked⟩).1.outcome := by
  rw [outcome_on]
  simp only [Rehearsal.executor_answer, Report.outcome_pure, ok_bind]
  generalize answers.head?.getD (some "") = reply
  constructor
  · intro fault hfault
    rw [hfault]
    rfl
  · intro hnone
    rw [hnone]
    rfl
  · intro sql hsql hreply
    rw [hsql, hreply]
    rfl
  · intro hchange
    unfold Operation.calls
    rcases (op.statement table).outcome with fault | (- | sql)
    · exact iff_of_false nofun fun h => h.1 rfl
    · rw [ok_bind]
      dsimp only
      rw [hchange.answer_eq]
      exact iff_of_false nofun fun h => h.1 rfl
    · rw [ok_bind]
      dsimp only
      rw [hchange.answer_eq]
      cases reply with
      | none => exact iff_of_false nofun fun h => h.2 rfl
      | some output => exact iff_of_true rfl ⟨nofun, nofun⟩

end Operation

/-! ### Sessions -/

namespace Session

variable {σ : Type}

/-- Runs operations in order, and goes on after a fault. -/
def perform (executor : Executor σ) : List (Table × Operation) → σ → List (Report Answer) × σ
  | [], s => ([], s)
  | (table, op) :: rest, s =>
    let (report, s) := (op.on table).run executor s
    let (reports, s) := perform executor rest s
    (report :: reports, s)

/-- The calls of operations, in order. -/
def calls (steps : List (Table × Operation)) : List Call :=
  steps.flatMap fun (table, op) => op.calls table

/-- A session uses one answer for each call, and its calls are those of its operations. -/
theorem state_perform (steps : List (Table × Operation)) (r : Rehearsal) :
    (perform Rehearsal.executor steps r).2 =
      ⟨r.answers.drop (calls steps).length, r.calls ++ calls steps⟩ := by
  induction steps generalizing r with
  | nil => simp [perform, calls]
  | cons step rest ih =>
      obtain ⟨table, op⟩ := step
      show (perform Rehearsal.executor rest ((op.on table).run Rehearsal.executor r).2).2 = _
      rw [ih, Rehearsal.state_run, Operation.calls_on]
      simp [calls]

theorem length_perform {executor : Executor σ} (steps : List (Table × Operation)) (s : σ) :
    (perform executor steps s).1.length = steps.length := by
  induction steps generalizing s with
  | nil => rfl
  | cons step rest ih =>
      obtain ⟨table, op⟩ := step
      show (perform executor rest _).1.length + 1 = rest.length + 1
      rw [ih]

/-- The answers that are left for the operation at a place of a session: as many as it makes
calls, after those that the operations before it use. -/
def answersAt (steps : List (Table × Operation)) (i : Nat) (table : Table) (op : Operation)
    (answers : List (Option String)) : List (Option String) :=
  (answers.drop (calls (steps.take i)).length).take (op.calls table).length

theorem report_perform {steps : List (Table × Operation)} {i : Nat} {table : Table} {op : Operation}
    (h : steps[i]? = some (table, op)) (r : Rehearsal) :
    (perform Rehearsal.executor steps r).1[i]? = some ((op.on table).run Rehearsal.executor
      ⟨answersAt steps i table op r.answers, []⟩).1 := by
  induction steps generalizing i r with
  | nil => cases h
  | cons step rest ih =>
      obtain ⟨first, firstOp⟩ := step
      show (((firstOp.on first).run Rehearsal.executor r).1 ::
        (perform Rehearsal.executor rest ((firstOp.on first).run Rehearsal.executor r).2).1)[i]? = _
      cases i with
      | zero =>
          cases h
          have halone : ((op.on table).run Rehearsal.executor
              ⟨r.answers.take (op.calls table).length, []⟩).1 =
                ((op.on table).run Rehearsal.executor r).1 :=
            Rehearsal.run_take (op.on table) r.calls [] (by rw [Operation.calls_on])
          show some _ = some _
          rw [← halone]
          rfl
      | succ i =>
          have hleft : answersAt ((first, firstOp) :: rest) (i + 1) table op r.answers =
              answersAt rest i table op (r.answers.drop (firstOp.calls first).length) := by
            simp [answersAt, calls]
          rw [List.getElem?_cons_succ, ih h, Rehearsal.state_run, Operation.calls_on, hleft]

/-- **Operations that are run one after another do not disturb each other.**  The calls are those
of the operations in order, an operation makes one call if it has a statement and none
otherwise, and each ends as it ends alone with the answer to its own call. -/
theorem perform_alone (steps : List (Table × Operation)) (r : Rehearsal) :
    let reports := (perform Rehearsal.executor steps r).1
    let left := (perform Rehearsal.executor steps r).2
    left.calls = r.calls ++ steps.flatMap (fun (table, op) => op.calls table) ∧
      left.answers = r.answers.drop (calls steps).length ∧
      reports.length = steps.length ∧
      (∀ op : Operation, op.mode.flags = match op with
        | .count _ => ["-readonly"]
        | .find _ _ => ["-readonly", "-json"]
        | _ => []) ∧
      ∀ (i : Nat) (table : Table) (op : Operation), steps[i]? = some (table, op) →
        let answers := answersAt steps i table op r.answers
        ∃ report, reports[i]? = some report ∧
          report = ((op.on table).run Rehearsal.executor ⟨answers, []⟩).1 ∧
          op.Returns table (answers.head?.getD (some "")) report.outcome := by
  have hstate := state_perform steps r
  refine ⟨by rw [hstate, calls], by rw [hstate], length_perform steps r, ?_, ?_⟩
  · intro op
    cases op <;> rfl
  · intro i table op hstep
    exact ⟨_, report_perform hstep r, rfl, op.returns_on _ []⟩

end Session

end RowShell
