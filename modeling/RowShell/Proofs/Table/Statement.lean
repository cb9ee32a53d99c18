/-
What is asked of a shell is one statement.

Values come into a statement as literals only, and a literal is closed whatever the value
is.  So it is enough to go through what else a statement consists of: fixed words, names,
and declared defaults.  The names are plain and the defaults are closed by assumption,
since both come from the declaration of the table and not from a value.

`isStatement_of_outcome` is the result.  It is about statements that are built; when none
is built there is nothing that could run.
-/
import RowShell.Proofs.Schema.Mutation
import RowShell.Proofs.Sql.Closed
import RowShell.Table

namespace RowShell

open Outcome Sql

/-! ### Lists of closed texts -/

namespace Sql

/-- A text that may stand between closed ones. -/
def Separates (sep : String) : Prop :=
  ∀ {a b : List Char}, Closed a → Closed b → Closed (a ++ sep.toList ++ b)

theorem closed_intercalate {sep : String} (hsep : Separates sep) {items : List String}
    (h : ∀ item ∈ items, Closed item.toList) : Closed (sep.intercalate items).toList := by
  induction items with
  | nil => exact closed_nil
  | cons item rest ih =>
      have hitem := h item (by simp)
      have hrest := ih fun other hother => h other (by simp [hother])
      cases rest with
      | nil => simpa using hitem
      | cons next rest => simpa using hsep hitem hrest

theorem separates_blank : Separates " " := by
  intro a b ha hb
  simpa using ha.mark hb (.inl rfl)

theorem separates_comma : Separates ", " := by
  intro a b ha hb
  simpa using ha.mark (closed_nil.mark hb (.inl rfl)) (.inr rfl)

theorem separates_and : Separates " and " := by
  intro a b ha hb
  have hword : Closed andWord := closed_calm (by decide)
  simpa [andWord] using ha.mark (hword.mark hb (.inl rfl)) (.inl rfl)

theorem separates_or : Separates " or " := by
  intro a b ha hb
  have hword : Closed orWord := closed_calm (by decide)
  simpa [orWord] using ha.mark (hword.mark hb (.inl rfl)) (.inl rfl)

end Sql

/-! ### Conditions -/

namespace Condition

theorem closed_nested {w : Written} (h : Closed w.text.toList) : Closed w.nested.toList := by
  unfold Written.nested
  split
  · simpa using closed_nil.paren h
  · exact h

theorem closed_compare {column sign literal : String}
    (h : (Condition.compare column sign literal).Plain) :
    Closed (Condition.compare column sign literal).write.text.toList := by
  obtain ⟨hname, hsign, hliteral⟩ := h
  have hsigns : ∀ s ∈ comparisonSigns, s.toList.all isCalm = true := by decide
  have hcomparison := ((closed_name hname).mark (closed_calm (hsigns sign hsign)) (.inl rfl)).mark
    (closed_literal hliteral) (.inl rfl)
  simpa [write] using closed_nil.paren hcomparison

theorem closed_conjunction {ws : List Written} (h : ∀ w ∈ ws, Closed w.text.toList) :
    Closed (conjunction ws).text.toList := by
  have hpresent : ∀ w ∈ present ws, Closed w.text.toList :=
    fun w hw => h w (List.mem_of_mem_filter hw)
  unfold conjunction
  split
  · next part heq => exact hpresent part (by rw [heq]; simp)
  · refine closed_intercalate separates_and ?_
    intro item hitem
    obtain ⟨w, hw, rfl⟩ := List.mem_map.mp hitem
    exact closed_nested (hpresent w hw)

theorem closed_disjunction {ws : List Written} (h : ∀ w ∈ ws, Closed w.text.toList) :
    Closed (disjunction ws).text.toList := by
  refine closed_intercalate separates_or ?_
  intro item hitem
  obtain ⟨w, hw, rfl⟩ := List.mem_map.mp hitem
  exact closed_nested (h w (List.mem_of_mem_filter hw))

mutual

theorem closed_write : ∀ {t : Condition}, t.Plain → Closed t.write.text.toList
  | .compare _ _ _, h => closed_compare h
  | .all _, h => closed_conjunction (closed_writeEach h)
  | .any _, h => closed_disjunction (closed_writeEach h)

theorem closed_writeEach : ∀ {ts : List Condition}, PlainEach ts →
    ∀ w ∈ writeEach ts, Closed w.text.toList
  | [], _, w, hw => absurd hw List.not_mem_nil
  | t :: ts, ⟨ht, hts⟩, w, hw => by
      rcases List.mem_cons.mp hw with rfl | hw
      · exact closed_write ht
      · exact closed_writeEach hts w hw

end

end Condition

/-! ### The parts of a statement -/

namespace Schema

variable {schema : Schema}

/-- Every declared default is closed. -/
def ClosedDefaults (schema : Schema) : Prop :=
  ∀ column ∈ schema.columns, ∀ sql, column.defaultSql = some sql → Closed sql.toList

theorem closed_whereSql (hplain : schema.Plain) {selection : Selection} {clause : String}
    (h : (schema.whereSql selection).outcome = .ok clause) : Closed clause.toList := by
  obtain ⟨filter, cs, -, hcs, rfl⟩ := whereSql_eq_ok h
  have hclosed : Closed (Condition.all cs).write.text.toList :=
    Condition.closed_write (t := .all cs) (conditions_eq_ok hplain hcs).1
  split
  · exact closed_nil
  · have hword : Closed "where".toList := closed_calm (by decide)
    simpa using hword.mark hclosed (.inl rfl)

theorem closed_valuesSql (hdefaults : schema.ClosedDefaults) {record : List (String × Value)}
    {values : String} (h : (schema.valuesSql record).outcome = .ok (some values)) :
    Closed values.toList := by
  obtain ⟨items, -, hitems, rfl⟩ := valuesSql_eq_some.mp h
  have hclosed : ∀ item ∈ items, Closed item.toList := by
    refine forall_item_of_forall₂ hitems ?_
    intro column hcolumn item hitem
    rcases hitem.isLiteral_or with hliteral | hsql
    · exact closed_literal hliteral
    · exact hdefaults column hcolumn item hsql
  have hword : Closed "values".toList := closed_calm (by decide)
  simpa using hword.paren (closed_intercalate separates_comma hclosed)

theorem closed_setSql (hplain : schema.Plain) {record : List (String × Value)} {sql : String}
    (h : (schema.setSql record).outcome = .ok (some sql)) : Closed sql.toList := by
  obtain ⟨items, hitems, rfl⟩ := setSql_eq_some h
  have hclosed : ∀ item ∈ items, Closed item.toList := by
    refine forall_item_of_forall₂ hitems ?_
    intro entry _ item hitem
    obtain ⟨column, literal, hfind, hliteral, rfl⟩ := hitem
    have hname := closed_name (hplain.isName hfind)
    have hsign : Closed "=".toList := closed_calm (by decide)
    have hvalue := closed_literal (Column.isLiteral_of_outcome hliteral)
    simpa using (hname.mark hsign (.inl rfl)).mark hvalue (.inl rfl)
  have hword : Closed "set".toList := closed_calm (by decide)
  simpa using hword.mark (closed_intercalate separates_comma hclosed) (.inl rfl)

theorem closed_flagged (hplain : schema.Plain) {projection : List (String × Value)}
    {names : List String} (h : (schema.flagged projection).outcome = .ok names) :
    ∀ name ∈ names, Closed name.toList := by
  induction projection generalizing names with
  | nil =>
      cases h
      exact nofun
  | cons entry rest ih =>
      obtain ⟨name, flag⟩ := entry
      rw [flagged] at h
      split at h
      · exact ih h
      · split at h
        · next hcontains =>
            rw [Report.outcome_bind] at h
            obtain ⟨others, hothers, heq⟩ := bind_eq_ok.mp h
            cases heq
            obtain ⟨column, hfind⟩ := Option.isSome_iff_exists.mp hcontains
            exact List.forall_mem_cons.mpr ⟨closed_name (hplain.isName hfind), ih hothers⟩
        · rw [Report.outcome_bind] at h
          exact ih h

theorem closed_projectionSql (hplain : schema.Plain) {projection : List (String × Value)}
    {columns : String} (h : (schema.projectionSql projection).outcome = .ok columns) :
    Closed columns.toList := by
  unfold projectionSql at h
  split at h
  · cases h
    refine closed_intercalate separates_comma (List.forall_mem_cons.mpr ⟨?_, ?_⟩)
    · exact closed_calm (by decide)
    · exact fun name hname => closed_name (hplain name hname)
  · rw [Report.outcome_bind] at h
    obtain ⟨names, hnames, heq⟩ := bind_eq_ok.mp h
    cases heq
    exact closed_intercalate separates_comma (closed_flagged hplain hnames)

end Schema

/-! ### Statements -/

namespace Table

variable {table : Table}

theorem outcome_refuse {α : Type} (text : String) :
    (table.refuse text : Report (Option α)).outcome = .ok none := rfl

theorem statementWhere_eq_some {parts : List String} {selection : Selection} {sql : String}
    (h : (table.statementWhere parts selection).outcome = .ok (some sql)) :
    ∃ clause, (table.schema.whereSql selection).outcome = .ok clause ∧
      sql = " ".intercalate (if clause.isEmpty then parts else parts ++ [clause]) ++ ";" := by
  rw [statementWhere, Report.outcome_afterRefusal, Report.outcome_bind] at h
  cases hclause : (table.schema.whereSql selection).outcome with
  | ok clause =>
      rw [hclause] at h
      cases h
      exact ⟨clause, rfl, rfl⟩
  | error fault =>
      rw [hclause] at h
      change (if fault.isRefusal then _ else _) = _ at h
      split at h
      · rw [outcome_refuse] at h
        cases h
      · cases h

theorem isStatement_of_statementWhere (hplain : table.schema.Plain) {parts : List String}
    (hparts : ∀ part ∈ parts, Closed part.toList) {selection : Selection} {sql : String}
    (h : (table.statementWhere parts selection).outcome = .ok (some sql)) :
    IsStatement sql.toList := by
  obtain ⟨clause, hclause, rfl⟩ := statementWhere_eq_some h
  have hall : ∀ part ∈ if clause.isEmpty then parts else parts ++ [clause],
      Closed part.toList := by
    split
    · exact hparts
    · intro part hpart
      rcases List.mem_append.mp hpart with hpart | hpart
      · exact hparts part hpart
      · cases List.mem_singleton.mp hpart
        exact Schema.closed_whereSql hplain hclause
  simpa using (closed_intercalate separates_blank hall).isStatement

/-- **Whatever the values are, a statement that is built is one statement.** -/
theorem isStatement_of_outcome (hname : IsName table.name) (hplain : table.schema.Plain)
    (hdefaults : table.schema.ClosedDefaults) (kind : StatementKind) (selection : Selection)
    (projection record : List (String × Value)) {sql : String}
    (h : (table.statement kind selection projection record).outcome = .ok (some sql)) :
    IsStatement sql.toList := by
  have htable := closed_name hname
  have words : ∀ cs ∈ ["select", "from", "delete from", "update", "insert into"],
      Closed cs.toList :=
    fun cs hcs => closed_calm ((by decide : ∀ cs ∈ ["select", "from", "delete from", "update",
      "insert into"], cs.toList.all isCalm = true) cs hcs)
  cases kind with
  | count =>
      have hcount : Closed "select count(*) from".toList := by
        have hfunction : Closed "select count".toList := closed_calm (by decide)
        have hrows : Closed "*".toList := closed_calm (by decide)
        simpa using (hfunction.paren hrows).mark (words "from" (by simp)) (.inl rfl)
      exact isStatement_of_statementWhere hplain (by simpa using ⟨hcount, htable⟩) h
  | select =>
      rw [statement, Report.outcome_bind] at h
      obtain ⟨columns, hcolumns, h⟩ := bind_eq_ok.mp h
      split at h
      · rw [Report.outcome_bind] at h
        obtain ⟨shown, -, heq⟩ := bind_eq_ok.mp h
        rw [outcome_refuse] at heq
        cases heq
      · have hclosed := Schema.closed_projectionSql hplain hcolumns
        refine isStatement_of_statementWhere hplain ?_ h
        simpa using ⟨words "select" (by simp), hclosed, words "from" (by simp), htable⟩
  | insert =>
      rw [statement, Report.outcome_bind] at h
      obtain ⟨values?, hvalues, heq⟩ := bind_eq_ok.mp h
      cases values? with
      | none => cases heq
      | some values =>
          cases heq
          have hclosed := Schema.closed_valuesSql hdefaults hvalues
          have hall := ((words "insert into" (by simp)).mark htable (.inl rfl)).mark hclosed (.inl rfl)
          simpa using hall.isStatement
  | delete =>
      refine isStatement_of_statementWhere hplain ?_ h
      simpa using ⟨words "delete from" (by simp), htable⟩
  | update =>
      rw [statement, Report.outcome_bind] at h
      obtain ⟨items?, hitems, h⟩ := bind_eq_ok.mp h
      cases items? with
      | none => cases h
      | some items =>
          have hclosed := Schema.closed_setSql hplain hitems
          refine isStatement_of_statementWhere hplain ?_ h
          simpa using ⟨words "update" (by simp), htable, hclosed⟩

/-- A value with a quote and a semicolon, and a default with a semicolon. -/
theorem isStatement_insert_quoted :
    IsStatement "insert into notes values('x''); drop table notes; --', 'none; yet');".toList := by
  let schema := Schema.ofColumns
    [.ofType "body" "text" none, ⟨1, "state", "text", none, some "'none; yet'", true, false⟩]
  have hplain : schema.Plain := by decide
  have hdefaults : schema.ClosedDefaults := by
    intro column hcolumn sql hsql
    have hmem : column ∈ [Column.ofType "body" "text" none,
      ⟨1, "state", "text", none, some "'none; yet'", true, false⟩] := hcolumn
    simp only [List.mem_cons, List.not_mem_nil, or_false] at hmem
    rcases hmem with rfl | rfl
    · cases hsql
    · cases hsql
      exact closed_quote "none; yet"
  have hname : IsName (Table.mk "main.db" "notes" schema).name := by decide
  exact isStatement_of_outcome hname hplain hdefaults .insert (.filter []) []
    [("body", .text "x'); drop table notes; --"), ("author", .null)] rfl

end Table

end RowShell
