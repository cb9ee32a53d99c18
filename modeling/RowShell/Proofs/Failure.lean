/-
Which operations fail.

The operations on tables and the discovery of a catalog are meant to answer in every case:
they log a refusal and what the executor could not do, and answer with nothing.  Some
faults pass through all the same.  Here the inputs on which that happens are described
exactly, for an executor that does not fail itself, whatever it answers.

Three kinds of data are behind all of them: whole numbers, or size bounds, of more digits
than a numeral may have; whole numbers beyond the range of binary64 numbers; and timestamps
without an offset on the first day of the calendar.  `operation_fails_iff` says for each
operation where such data have to stand.
-/
import RowShell.Proofs.Catalog.Discovery
import RowShell.Proofs.Schema.Failure

namespace RowShell

open Outcome

/-! ### Statements -/

namespace Table

variable {table : Table} {selection : Selection} {projection record : List (String × Value)}

theorem fails_statementWhere (parts : List String) :
    Fails (table.statementWhere parts selection).outcome ↔ table.schema.Unselectable selection := by
  rw [statementWhere, fails_afterRefusal fun fault => not_fails_ok none, Report.outcome_bind]
  exact escapes_bind_ok.trans Schema.escapes_whereSql

/-- The statement of a kind fails to be built. -/
def Unbuildable (table : Table) (kind : StatementKind) (selection : Selection)
    (projection record : List (String × Value)) : Prop :=
  match kind with
  | .count | .delete => table.schema.Unselectable selection
  | .select =>
    if (table.schema.projectionSql projection).outcome = .ok "" then (Value.map projection).HoldsLong
    else table.schema.Unselectable selection
  | .insert => Reaches (fun column => ¬ Schema.Withheld record column) (Schema.Misfits record)
      table.schema.columns
  | .update => table.schema.Holds Column.Unwritable record ∨
      (table.schema.NamesColumn record ∧ table.schema.Unselectable selection)

theorem not_fails_flagged (schema : Schema) (projection : List (String × Value)) :
    ¬ Fails (schema.flagged projection).outcome := by
  induction projection with
  | nil => exact not_fails_ok []
  | cons entry rest ih =>
      obtain ⟨name, flag⟩ := entry
      rw [Schema.flagged]
      split
      · exact ih
      · split
        · rw [Report.outcome_bind]
          exact mt fails_bind_ok.mp ih
        · exact ih

theorem not_fails_projectionSql (schema : Schema) (projection : List (String × Value)) :
    ¬ Fails (schema.projectionSql projection).outcome := by
  rw [Schema.projectionSql]
  split
  · exact not_fails_ok _
  · rw [Report.outcome_bind]
    exact mt fails_bind_ok.mp (not_fails_flagged schema projection)

theorem fails_selectStatement :
    Fails (table.statement .select selection projection record).outcome ↔
      table.Unbuildable .select selection projection record := by
  obtain ⟨columns, hcolumns⟩ := not_fails_iff.mp
    (not_fails_projectionSql table.schema projection)
  rw [statement, Unbuildable, Report.outcome_bind, hcolumns, ok_bind]
  by_cases hempty : columns = ""
  · have hisEmpty : columns.isEmpty = true := by simpa using hempty
    rw [if_pos hisEmpty, if_pos (by rw [hempty]), Report.outcome_bind, Report.outcome_liftM]
    exact fails_bind_ok.trans Value.fails_display
  · have hisEmpty : ¬ columns.isEmpty = true := by simpa using hempty
    rw [if_neg hisEmpty, if_neg (by simpa using hempty)]
    exact fails_statementWhere _

theorem fails_updateStatement :
    Fails (table.statement .update selection projection record).outcome ↔
      table.Unbuildable .update selection projection record := by
  rw [statement, Unbuildable, Report.outcome_bind, fails_bind, Schema.fails_setSql]
  refine or_congr_right' fun hholds => ?_
  obtain ⟨items?, hitems⟩ := not_fails_iff.mp (mt Schema.fails_setSql.mp hholds)
  have hnone := Schema.setSql_eq_ok hitems
  rw [hitems]
  cases items? with
  | none =>
      have hnames : ¬ table.schema.NamesColumn record := hnone.mp rfl
      refine iff_of_false ?_ fun h => hnames h.1
      intro h
      obtain ⟨_, heq, h⟩ := h
      cases heq
      exact not_fails_ok _ h
  | some items =>
      have hnames : table.schema.NamesColumn record := by
        by_contra h
        cases hnone.mpr h
      rw [and_iff_right hnames, ← fails_statementWhere ["update", table.name, items]]
      simp

/-- **A statement fails to be built exactly if a value in it has no literal**, or if a
projection selects nothing and cannot be shown. -/
theorem fails_statement {kind : StatementKind} :
    Fails (table.statement kind selection projection record).outcome ↔
      table.Unbuildable kind selection projection record := by
  cases kind with
  | count => exact fails_statementWhere _
  | select => exact fails_selectStatement
  | insert =>
      rw [statement, Report.outcome_bind]
      exact fails_bind_ok.trans Schema.fails_valuesSql
  | delete => exact fails_statementWhere _
  | update => exact fails_updateStatement

/-! ### Tables -/

section

variable {σ : Type} {executor : Executor σ} {s : σ} {mode : Mode}
  {statement : Report (Option String)}

/-- What comes of asking for a statement to be run. -/
theorem outcome_run :
    ((table.run mode statement).run executor s).1.outcome =
      statement.outcome >>= fun sql? =>
        match sql? with
        | none => .ok none
        | some sql => (executor ⟨table.target, sql, mode⟩ s).1.outcome.map
            (Option.map fun output => (sql, output)) := by
  rw [run, Dialogue.outcome_run_bind, Dialogue.outcome_run_liftM, Dialogue.state_run_liftM]
  congr 1
  funext sql?
  cases sql? with
  | none => rfl
  | some sql =>
      dsimp only
      rw [Dialogue.outcome_run_bind, Dialogue.outcome_run_call]
      rcases (executor ⟨table.target, sql, mode⟩ s).1.outcome with fault | (- | output)
      · rfl
      · rfl
      · rfl

theorem fails_run (mode : Mode) (hexecutor : ∀ call s, ¬ Fails (executor call s).1.outcome) :
    Fails ((table.run mode statement).run executor s).1.outcome ↔ Fails statement.outcome := by
  rw [outcome_run, fails_bind_const (p := False), or_false]
  intro sql?
  refine iff_of_false ?_ id
  cases sql? with
  | none => exact not_fails_ok none
  | some sql => exact mt fails_map.mp (hexecutor _ s)

theorem fails_change (hexecutor : ∀ call s, ¬ Fails (executor call s).1.outcome) :
    Fails ((table.change statement).run executor s).1.outcome ↔ Fails statement.outcome := by
  rw [change, Dialogue.outcome_run_bind]
  exact fails_bind_ok.trans (fails_run _ hexecutor)

theorem fails_count (hexecutor : ∀ call s, ¬ Fails (executor call s).1.outcome) :
    Fails ((table.count selection).run executor s).1.outcome ↔
      table.Unbuildable .count selection [] [] := by
  rw [← fails_statement, ← fails_run .read hexecutor (s := s), count,
    Dialogue.outcome_run_bind, fails_bind_const (p := False), or_false]
  intro answer?
  refine iff_of_false ?_ id
  rcases answer? with - | ⟨sql, output⟩
  · exact not_fails_ok none
  · dsimp only
    split
    · exact not_fails_ok _
    · exact not_fails_ok none

/-- A statement is built, and the output of running it cannot be read. -/
def AnswersUnreadable (table : Table) (executor : Executor σ) (s : σ) (selection : Selection)
    (projection : List (String × Value)) : Prop :=
  ∃ sql output, (table.statement .select selection projection []).outcome = .ok (some sql) ∧
    (executor ⟨table.target, sql, .readJson⟩ s).1.outcome = .ok (some output) ∧
    table.schema.Unreadable output

theorem run_eq_some {answer : String × String} :
    ((table.run mode statement).run executor s).1.outcome = .ok (some answer) ↔
      statement.outcome = .ok (some answer.1) ∧
        (executor ⟨table.target, answer.1, mode⟩ s).1.outcome = .ok (some answer.2) := by
  rw [outcome_run, bind_eq_ok]
  constructor
  · intro h
    obtain ⟨sql?, hsql, h⟩ := h
    cases sql? with
    | none => cases h
    | some sql =>
        obtain ⟨output?, houtput, heq⟩ := map_eq_ok.mp h
        cases output? with
        | none => cases heq
        | some output =>
            cases heq
            exact ⟨hsql, houtput⟩
  · intro h
    obtain ⟨hsql, houtput⟩ := h
    exact ⟨some answer.1, hsql, map_eq_ok.mpr ⟨some answer.2, houtput, rfl⟩⟩

theorem fails_find (hexecutor : ∀ call s, ¬ Fails (executor call s).1.outcome) :
    Fails ((table.find selection projection).run executor s).1.outcome ↔
      table.Unbuildable .select selection projection [] ∨
        table.AnswersUnreadable executor s selection projection := by
  have hrows (sql output : String) :
      Fails (Report.afterRefusal (do return some (← table.schema.readRows output)) fun fault =>
        table.refuse (fault.message ++ " [" ++ sql ++ "]")).outcome ↔
        table.schema.Unreadable output := by
    rw [fails_afterRefusal fun fault => not_fails_ok none, Report.outcome_bind,
      Report.outcome_liftM]
    exact escapes_bind_ok.trans Schema.escapes_readRows
  rw [← fails_statement, ← fails_run .readJson hexecutor (s := s), find,
    Dialogue.outcome_run_bind, fails_bind]
  refine or_congr_right ?_
  constructor
  · intro h
    obtain ⟨answer?, hrun, h⟩ := h
    rcases answer? with - | ⟨sql, output⟩
    · exact absurd h (not_fails_ok none)
    · obtain ⟨hsql, houtput⟩ := run_eq_some.mp hrun
      dsimp only at h
      rw [Dialogue.outcome_run_liftM, hrows] at h
      exact ⟨sql, output, hsql, houtput, h⟩
  · intro h
    obtain ⟨sql, output, hsql, houtput, h⟩ := h
    refine ⟨some (sql, output), run_eq_some.mpr ⟨hsql, houtput⟩, ?_⟩
    dsimp only
    rwa [Dialogue.outcome_run_liftM, hrows]

end

end Table

/-! ### Catalogs -/

namespace Catalog

open Schema

theorem fails_readSchema {name listing : String} :
    Fails (readSchema name listing).outcome ↔ Overlong listing := by
  rw [readSchema, fails_afterRefusal fun fault => not_fails_ok none, Report.outcome_bind,
    Report.outcome_liftM]
  exact escapes_bind_ok.trans escapes_ofText

theorem readSchema_eq_some (name : String) {listing : String} :
    (∃ schema, (readSchema name listing).outcome = .ok (some schema)) ↔ Accepted listing := by
  rw [← exists_ofText_eq_ok]
  refine exists_congr fun schema => ?_
  rw [readSchema, Report.outcome_afterRefusal, Report.outcome_bind, Report.outcome_liftM]
  cases ofText listing with
  | ok other =>
      constructor
      · intro h
        cases h
        rfl
      · intro h
        cases h
        rfl
  | error fault =>
      refine iff_of_false ?_ nofun
      change ¬ (if fault.isRefusal then _ else _) = _
      split
      · exact nofun
      · exact nofun

/-- What follows a listing is come to only if the listing is accepted. -/
theorem fails_readSchema_bind {α : Type} {name listing : String}
    {next : Option Schema → Except Fault α} {p : Prop} (hnone : ¬ Fails (next none))
    (hsome : ∀ schema, Fails (next (some schema)) ↔ p) :
    Fails ((readSchema name listing).outcome >>= next) ↔
      Overlong listing ∨ (Accepted listing ∧ p) := by
  rw [fails_bind, fails_readSchema, ← readSchema_eq_some name]
  refine or_congr_right ?_
  constructor
  · intro h
    obtain ⟨schema?, hschema, h⟩ := h
    cases schema? with
    | none => exact absurd h hnone
    | some schema => exact ⟨⟨schema, hschema⟩, (hsome schema).mp h⟩
  · intro h
    obtain ⟨⟨schema, hschema⟩, h⟩ := h
    exact ⟨some schema, hschema, (hsome schema).mpr h⟩

/-- **Listings fail to be read if one is overlong and all before it are accepted.** -/
theorem fails_readSchemas {listings : List (String × String)} :
    Fails (readSchemas listings).outcome ↔ Reaches Accepted Overlong (listings.map Prod.snd) := by
  induction listings with
  | nil => exact iff_of_false (not_fails_ok _) not_reaches_nil
  | cons entry rest ih =>
      obtain ⟨name, listing⟩ := entry
      rw [readSchemas, Report.outcome_bind, List.map_cons, reaches_cons, ← ih]
      refine fails_readSchema_bind (not_fails_ok none) fun schema => ?_
      rw [Report.outcome_bind]
      exact fails_bind_ok

section

variable {σ : Type} {executor : Executor σ} {target : String} {names : List String} {s : σ}

/-- An answer with a listing. -/
def Answers (p : String → Prop) (reply : Except Fault (Option String)) : Prop :=
  ∃ output, reply = .ok (some output) ∧ p (listingOf output)

@[simp] theorem not_answers_none {p : String → Prop} : ¬ Answers p (.ok none) := nofun

theorem answers_some {p : String → Prop} {output : String} :
    Answers p (.ok (some output)) ↔ p (listingOf output) := by
  simp [Answers]

/-- Asked for all columns together, the executor answers with one listing for each table,
and some listing is overlong. -/
def OverlongTogether (executor : Executor σ) (target : String) (names : List String) (s : σ) :
    Prop :=
  ∃ output, (executor (columnsCall target names) s).1.outcome = .ok (some output) ∧
    (Chunks.ofText output).length = names.length ∧
    Reaches Accepted Overlong (Chunks.ofText output)

/-- Asked for the columns table by table, the executor answers with an overlong listing. -/
def OverlongApart (executor : Executor σ) (target : String) (names : List String) (s : σ) : Prop :=
  Reaches (Answers Accepted) (Answers Overlong)
    (Dialogue.replies executor (names.map (columnCall target)) s)

theorem fails_schemasTogether (hexecutor : ∀ call s, ¬ Fails (executor call s).1.outcome) :
    Fails ((schemasTogether target names).run executor s).1.outcome ↔
      OverlongTogether executor target names s := by
  rw [outcome_schemasTogether, fails_bind, or_iff_right (hexecutor _ s)]
  constructor
  · intro h
    obtain ⟨output?, houtput, h⟩ := h
    cases output? with
    | none => exact absurd h (not_fails_ok none)
    | some output =>
        dsimp only at h
        split at h
        · next hlength =>
            rw [fails_readSchemas, List.map_snd_zip hlength.le] at h
            exact ⟨output, houtput, hlength, h⟩
        · exact absurd h (not_fails_ok none)
  · intro h
    obtain ⟨output, houtput, hlength, h⟩ := h
    refine ⟨some output, houtput, ?_⟩
    dsimp only
    rwa [if_pos hlength, fails_readSchemas, List.map_snd_zip hlength.le]

theorem fails_schemasApart (hexecutor : ∀ call s, ¬ Fails (executor call s).1.outcome) :
    Fails ((schemasApart target names).run executor s).1.outcome ↔
      OverlongApart executor target names s := by
  unfold OverlongApart
  induction names generalizing s with
  | nil => exact iff_of_false (not_fails_ok _) not_reaches_nil
  | cons name rest ih =>
      obtain ⟨output?, houtput⟩ := not_fails_iff.mp (hexecutor (columnCall target name) s)
      rw [outcome_schemasApart_cons, List.map_cons, Dialogue.replies, reaches_cons, ← ih, houtput,
        ok_bind]
      cases output? with
      | none => exact iff_of_false (not_fails_ok none) (by simp)
      | some output =>
          rw [answers_some, answers_some]
          exact fails_readSchema_bind (not_fails_ok none) fun schema => fails_map

/-- The executor lists tables, and answers with an overlong column listing. -/
def Undiscoverable (executor : Executor σ) (target : String) (together : Bool) (s : σ) : Prop :=
  ∃ listing, (executor ⟨target, listTables, .read⟩ s).1.outcome = .ok (some listing) ∧
    if together then
      OverlongTogether executor target (Text.words listing)
        (executor ⟨target, listTables, .read⟩ s).2
    else
      OverlongApart executor target (Text.words listing) (executor ⟨target, listTables, .read⟩ s).2

theorem not_overlongTogether_nil : ¬ OverlongTogether executor target [] s := by
  intro h
  obtain ⟨output, -, hlength, h⟩ := h
  rw [List.length_nil, List.length_eq_zero_iff] at hlength
  rw [hlength] at h
  exact not_reaches_nil h

theorem not_overlongApart_nil : ¬ OverlongApart executor target [] s := not_reaches_nil

theorem fails_discover (hexecutor : ∀ call s, ¬ Fails (executor call s).1.outcome)
    {together : Bool} :
    Fails ((discover target together).run executor s).1.outcome ↔
      Undiscoverable executor target together s := by
  obtain ⟨listing?, hlisting⟩ := not_fails_iff.mp (hexecutor ⟨target, listTables, .read⟩ s)
  rw [outcome_discover, Undiscoverable, hlisting, ok_bind]
  cases listing? with
  | none => exact iff_of_false (not_fails_ok none) (by simp)
  | some listing =>
      simp only [Except.ok.injEq, Option.some.injEq, exists_eq_left']
      by_cases hnames : Text.words listing = []
      · rw [hnames]
        refine iff_of_false (not_fails_ok _) ?_
        cases together with
        | true => exact not_overlongTogether_nil
        | false => exact not_overlongApart_nil
      · rw [if_neg (by simpa using hnames), fails_map]
        cases together with
        | true => exact fails_schemasTogether hexecutor
        | false => exact fails_schemasApart hexecutor

end

end Catalog

/-! ### All operations -/

section

variable {σ : Type} {executor : Executor σ}

/-- **When the operations fail.**  The executor does not fail itself and answers whatever it
likes, from any state on. -/
theorem operation_fails_iff (hexecutor : ∀ call s, ¬ Fails (executor call s).1.outcome)
    (table : Table) (selection : Selection) (projection record : List (String × Value))
    (target : String) (together : Bool) (s : σ) :
    (Fails ((table.count selection).run executor s).1.outcome ↔
      table.schema.Unselectable selection) ∧
    (Fails ((table.find selection projection).run executor s).1.outcome ↔
      table.Unbuildable .select selection projection [] ∨
        table.AnswersUnreadable executor s selection projection) ∧
    (Fails ((table.insert record).run executor s).1.outcome ↔
      Reaches (fun column => ¬ Schema.Withheld record column) (Schema.Misfits record)
        table.schema.columns) ∧
    (Fails ((table.remove selection).run executor s).1.outcome ↔
      table.schema.Unselectable selection) ∧
    (Fails ((table.update selection record).run executor s).1.outcome ↔
      table.schema.Holds Column.Unwritable record ∨
        (table.schema.NamesColumn record ∧ table.schema.Unselectable selection)) ∧
    (Fails ((Catalog.discover target together).run executor s).1.outcome ↔
      Catalog.Undiscoverable executor target together s) := by
  refine ⟨?_, ?_, ?_, ?_, ?_, ?_⟩
  · exact Table.fails_count hexecutor
  · exact Table.fails_find hexecutor
  · exact (Table.fails_change hexecutor).trans Table.fails_statement
  · exact (Table.fails_change hexecutor).trans Table.fails_statement
  · exact (Table.fails_change hexecutor).trans Table.fails_statement
  · exact Catalog.fails_discover hexecutor

end

/-- The first day of the calendar cannot be inserted where dates are, nor the last one if it is marked as
the second of two, and counting rows is not hindered by that. -/
theorem fails_insert_firstDay :
    let table : Table := ⟨"main.db", "t", .ofColumns [.ofType "d" "DATETIME" none]⟩
    let first : Timestamp := .ofDate ⟨1, 1, 1, by decide⟩
    let last : Timestamp := ⟨⟨9999, 12, 31, by decide⟩, ⟨0, 0, 0, 0, true⟩, none⟩
    (∀ t ∈ [first, last],
      Fails ((table.insert [("d", .timestamp t)]).run Rehearsal.executor ⟨[], []⟩).1.outcome) ∧
      ¬ Fails ((table.count (.filter [])).run Rehearsal.executor ⟨[], []⟩).1.outcome := by
  intro table first last
  have hexecutor : ∀ call s, ¬ Fails (Rehearsal.executor call s).1.outcome := by
    intro call s
    unfold Rehearsal.executor
    split
    · exact not_fails_ok _
    · exact not_fails_ok _
  constructor
  · intro t ht
    obtain ⟨-, -, hinsert, -⟩ := operation_fails_iff hexecutor table (.filter []) []
      [("d", .timestamp t)] "main.db" true ⟨[], []⟩
    refine hinsert.mpr ⟨[], .ofType "d" "DATETIME" none, [], rfl, by simp, .timestamp t, rfl, ?_⟩
    rcases List.mem_pair.mp ht with rfl | rfl
    · exact .inl ⟨rfl, rfl, by decide⟩
    · exact .inr ⟨rfl, rfl, by decide⟩
  · obtain ⟨hcount, -⟩ := operation_fails_iff hexecutor table (.filter []) [] [] "main.db" true
      ⟨[], []⟩
    rw [hcount]
    intro h
    obtain ⟨filter, heq, entry, hmem, -⟩ := h
    cases heq
    cases hmem

/-- Not every operation answers. -/
theorem not_always_answers :
    ¬ ∀ (table : Table) (record : List (String × Value)) (answers : List (Option String)),
      ∃ done, ((table.insert record).run Rehearsal.executor ⟨answers, []⟩).1.outcome = .ok done := by
  intro h
  obtain ⟨done, hdone⟩ := h ⟨"main.db", "t", .ofColumns [.ofType "d" "DATETIME" none]⟩
    [("d", .timestamp (.ofDate ⟨1, 1, 1, by decide⟩))] []
  cases hdone

end RowShell
