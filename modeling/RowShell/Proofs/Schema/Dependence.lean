/-
What a where clause depends on.

A filter names columns, and a schema writes the operands of those that it has.  So the where
clause of a filter is decided by what the schema knows of the columns that the filter names, and
of such a column by its category and its size.  Nothing else of a schema is looked at,
`outcome_whereSql_congr`.  The other way round every column that is compared in the clause is one
that the filter names and the schema has, whether the comparisons are taken from the condition
that is written or, where names are plain, from what a shell reads.

Only outcomes are compared: a warning in the log shows the declared type of a column, which may
differ within a category.
-/
import RowShell.Proofs.Filter.Columns
import RowShell.Proofs.Schema.WhereClause

namespace RowShell

open Outcome

/-! ### Columns that write alike -/

/-- The columns have the same category and the same size. -/
def Column.Alike (column other : Column) : Prop :=
  column.category = other.category ∧ column.size = other.size

instance (column other : Column) : Decidable (column.Alike other) :=
  inferInstanceAs (Decidable (_ ∧ _))

/-- Columns that are alike write every value alike. -/
theorem Column.Alike.outcome_literal {column other : Column} (h : column.Alike other)
    (value : Value) : (column.literal value).outcome = (other.literal value).outcome := by
  obtain ⟨hcategory, hsize⟩ := h
  have htruncated : column.truncated = other.truncated := by
    funext s
    rw [truncated, truncated, hsize]
  by_cases hv : value = .null
  · subst hv
    rfl
  · rw [Column.outcome_literal column hv, Column.outcome_literal other hv, hcategory, htruncated]

namespace Schema

variable {schema other : Schema}

/-! ### Schemas that agree -/

/-- Each of the names is that of no column in either schema, or of columns that are alike. -/
def AgreesOn (schema other : Schema) (names : List String) : Prop :=
  ∀ name ∈ names, Option.Rel Column.Alike (schema.find? name) (other.find? name)

theorem AgreesOn.left {names more : List String} (h : schema.AgreesOn other (names ++ more)) :
    schema.AgreesOn other names := by
  intro name hname
  exact h name (List.mem_append_left more hname)

theorem AgreesOn.right {names more : List String} (h : schema.AgreesOn other (names ++ more)) :
    schema.AgreesOn other more := by
  intro name hname
  exact h name (List.mem_append_right names hname)

theorem outcome_comparison_congr {name : String} (h : schema.AgreesOn other [name])
    (sign : String) (operand : Value) :
    (schema.comparison name sign operand).outcome =
      (other.comparison name sign operand).outcome := by
  have hname := h name (by simp)
  unfold comparison
  generalize schema.find? name = column? at hname
  generalize other.find? name = other? at hname
  cases hname with
  | none => rfl
  | some halike =>
      rw [Report.outcome_bind, Report.outcome_bind, halike.outcome_literal]

mutual

theorem outcome_clauseConditions_congr : ∀ {clause : Clause},
    schema.AgreesOn other clause.columns →
      (schema.clauseConditions clause).outcome = (other.clauseConditions clause).outcome
  | .equals name operand, h => outcome_comparison_congr h "=" operand
  | .compares name comparisons, h => by
      rw [clauseConditions, clauseConditions, Report.outcome_bind, Report.outcome_bind,
        Report.outcome_mapM, Report.outcome_mapM]
      simp only [outcome_comparison_congr h]
  | .anyOf branches, h => by
      rw [clauseConditions, clauseConditions, Report.outcome_bind, Report.outcome_bind,
        outcome_branchConditions_congr h]

/-- **A filter has the same conditions in schemas that agree on its columns.** -/
theorem outcome_conditions_congr : ∀ {filter : List Clause},
    schema.AgreesOn other (Filter.columns filter) →
      (schema.conditions filter).outcome = (other.conditions filter).outcome
  | [], _ => rfl
  | clause :: rest, h => by
      rw [Filter.columns] at h
      rw [outcome_conditions_cons, outcome_conditions_cons,
        outcome_clauseConditions_congr h.left, outcome_conditions_congr h.right]

theorem outcome_branchConditions_congr : ∀ {branches : List (List Clause)},
    schema.AgreesOn other (branchColumns branches) →
      (schema.branchConditions branches).outcome = (other.branchConditions branches).outcome
  | [], _ => rfl
  | branch :: rest, h => by
      rw [branchColumns] at h
      rw [outcome_branchConditions_cons, outcome_branchConditions_cons,
        outcome_conditions_congr h.left, outcome_branchConditions_congr h.right]

end

theorem outcome_whereSql_congr {filter : Filter}
    (h : schema.AgreesOn other (Filter.columns filter)) :
    (schema.whereSql (.filter filter)).outcome = (other.whereSql (.filter filter)).outcome := by
  rw [outcome_whereSql, outcome_whereSql]
  show ((schema.conditions filter).outcome >>= _) = (other.conditions filter).outcome >>= _
  rw [outcome_conditions_congr h]

end Schema

/-! ### The columns of a condition -/

namespace Condition

mutual

/-- The columns that are compared. -/
def columns : Condition → List String
  | .compare column _ _ => [column]
  | .all parts => columnsEach parts
  | .any branches => columnsEach branches

def columnsEach : List Condition → List String
  | [] => []
  | part :: rest => part.columns ++ columnsEach rest

end

theorem columnsEach_append (ts us : List Condition) :
    columnsEach (ts ++ us) = columnsEach ts ++ columnsEach us := by
  induction ts with
  | nil => rfl
  | cons t ts ih => rw [List.cons_append, columnsEach, ih, columnsEach, List.append_assoc]

/-- Joining members loses none of their columns. -/
theorem columnsEach_joined? {join : List Condition → Condition}
    (hjoin : ∀ members, (join members).columns = columnsEach members) (members : List Condition) :
    columnsEach (joined? join members).toList = columnsEach members := by
  match members with
  | [] => rfl
  | [member] => rfl
  | first :: second :: rest =>
      show columnsEach [join (first :: second :: rest)] = _
      rw [columnsEach, hjoin, columnsEach, List.append_nil]

mutual

/-- **Pruning loses no comparison.** -/
theorem columnsEach_pruned : ∀ t : Condition, columnsEach t.pruned.toList = t.columns
  | .compare column sign literal => rfl
  | .all parts => by
      rw [pruned, columnsEach_joined? fun _ => rfl, columnsEach_prunedEach, columns]
  | .any branches => by
      rw [pruned, columnsEach_joined? fun _ => rfl, columnsEach_prunedEach, columns]

theorem columnsEach_prunedEach : ∀ ts : List Condition, columnsEach (prunedEach ts) = columnsEach ts
  | [] => rfl
  | t :: ts => by
      rw [prunedEach, columnsEach_append, columnsEach_pruned, columnsEach_prunedEach, columnsEach]

end

theorem columns_of_pruned {t u : Condition} (h : t.pruned = some u) : u.columns = t.columns := by
  rw [← columnsEach_pruned t, h]
  exact (List.append_nil _).symm

end Condition

namespace Schema

open Condition Sql

variable {schema : Schema}

/-! ### What is compared is named and known -/

theorem columns_comparison {name sign : String} {operand : Value} {cs : List Condition}
    (h : (schema.comparison name sign operand).outcome = .ok cs) :
    ∀ compared ∈ columnsEach cs, compared = name ∧ compared ∈ schema.names := by
  unfold comparison at h
  cases hfind : schema.find? name with
  | none =>
      rw [hfind] at h
      cases h
      simp [columnsEach]
  | some column =>
      obtain ⟨hmem, rfl⟩ := of_find?_eq_some hfind
      rw [hfind, Report.outcome_bind] at h
      obtain ⟨literal, -, heq⟩ := bind_eq_ok.mp h
      cases heq
      intro compared hcompared
      have heq : compared = column.name := by
        simpa [columnsEach, Condition.columns] using hcompared
      exact ⟨heq, heq ▸ List.mem_map_of_mem hmem⟩

theorem columns_flatten {name : String} {comparisons : List (Operator × Value)}
    {css : List (List Condition)}
    (h : List.Forall₂ (fun (entry : Operator × Value) cs =>
      (schema.comparison name entry.1.sql entry.2).outcome = .ok cs) comparisons css) :
    ∀ compared ∈ columnsEach css.flatten, compared = name ∧ compared ∈ schema.names := by
  induction h with
  | nil => simp [columnsEach]
  | cons hfirst _ ih =>
      intro compared hcompared
      rw [List.flatten_cons, columnsEach_append, List.mem_append] at hcompared
      rcases hcompared with hcompared | hcompared
      · exact columns_comparison hfirst compared hcompared
      · exact ih compared hcompared

mutual

theorem columns_clauseConditions : ∀ {clause : Clause} {cs : List Condition},
    (schema.clauseConditions clause).outcome = .ok cs →
      ∀ name ∈ columnsEach cs, name ∈ clause.columns ∧ name ∈ schema.names
  | .equals column operand, cs, h => by
      intro name hname
      obtain ⟨rfl, hknown⟩ := columns_comparison h name hname
      exact ⟨by simp [Clause.columns], hknown⟩
  | .compares column comparisons, cs, h => by
      obtain ⟨css, hcss, rfl⟩ := clauseConditions_compares_eq_ok.mp h
      intro name hname
      obtain ⟨rfl, hknown⟩ := columns_flatten hcss name hname
      exact ⟨by simp [Clause.columns], hknown⟩
  | .anyOf branches, cs, h => by
      obtain ⟨ts, hts, rfl⟩ := clauseConditions_anyOf_eq_ok.mp h
      intro name hname
      rw [columnsEach, Condition.columns, columnsEach, List.append_nil] at hname
      exact columns_branchConditions hts name hname

/-- **What is compared in the conditions of a filter is a column of both.** -/
theorem columns_conditions : ∀ {filter : List Clause} {cs : List Condition},
    (schema.conditions filter).outcome = .ok cs →
      ∀ name ∈ columnsEach cs, name ∈ Filter.columns filter ∧ name ∈ schema.names
  | [], cs, h => by
      rw [conditions] at h
      cases h
      simp [columnsEach]
  | clause :: rest, cs, h => by
      obtain ⟨first, others, hfirst, hothers, rfl⟩ := conditions_cons_eq_ok.mp h
      intro name hname
      rw [columnsEach_append, List.mem_append] at hname
      rw [Filter.columns, List.mem_append]
      rcases hname with hname | hname
      · obtain ⟨hnamed, hknown⟩ := columns_clauseConditions hfirst name hname
        exact ⟨.inl hnamed, hknown⟩
      · obtain ⟨hnamed, hknown⟩ := columns_conditions hothers name hname
        exact ⟨.inr hnamed, hknown⟩

theorem columns_branchConditions : ∀ {branches : List (List Clause)} {cs : List Condition},
    (schema.branchConditions branches).outcome = .ok cs →
      ∀ name ∈ columnsEach cs, name ∈ branchColumns branches ∧ name ∈ schema.names
  | [], cs, h => by
      rw [branchConditions] at h
      cases h
      simp [columnsEach]
  | branch :: rest, cs, h => by
      obtain ⟨first, others, hfirst, hothers, rfl⟩ := branchConditions_cons_eq_ok.mp h
      intro name hname
      rw [columnsEach, Condition.columns, List.mem_append] at hname
      rw [branchColumns, List.mem_append]
      rcases hname with hname | hname
      · obtain ⟨hnamed, hknown⟩ := columns_conditions hfirst name hname
        exact ⟨.inl hnamed, hknown⟩
      · obtain ⟨hnamed, hknown⟩ := columns_branchConditions hothers name hname
        exact ⟨.inr hnamed, hknown⟩

end

/-! ### Where clauses -/

variable {filter : Filter}

/-- The clause is the text of a condition on columns of both. -/
theorem condition_of_whereSql {sql : String}
    (h : (schema.whereSql (.filter filter)).outcome = .ok sql) :
    ∃ condition, (schema.condition filter).outcome = .ok condition ∧
      sql = (if condition.write.text.isEmpty then "" else "where " ++ condition.write.text) ∧
      ∀ name ∈ condition.columns, name ∈ filter.columnNames ∧ name ∈ schema.names := by
  obtain ⟨filter', cs, hfilter, hcs, hsql⟩ := whereSql_eq_ok h
  cases hfilter
  refine ⟨.all cs, ?_, hsql, ?_⟩
  · rw [condition, Report.outcome_bind, hcs]
    rfl
  · intro name hname
    obtain ⟨hnamed, hknown⟩ := columns_conditions hcs name hname
    exact ⟨Filter.mem_columnNames.mpr hnamed, hknown⟩

/-- What a shell reads in the clause is a condition on columns of both. -/
theorem reads_whereSql (hplain : schema.Plain) {text : String}
    (h : (schema.whereSql (.filter filter)).outcome = .ok ("where " ++ text)) :
    ∃ tree, ReadsAs text tree ∧ (∀ t, ReadsAs text t → t = tree) ∧
      ∀ name ∈ tree.columns, name ∈ filter.columnNames ∧ name ∈ schema.names := by
  obtain ⟨condition, hcondition, hsql, hcolumns⟩ := condition_of_whereSql h
  rw [Schema.condition, Report.outcome_bind] at hcondition
  obtain ⟨cs, hcs, heq⟩ := bind_eq_ok.mp hcondition
  cases heq
  have hspells : SpellsRest (Condition.all cs).write (Condition.all cs).pruned :=
    spells_write (t := .all cs) (conditions_eq_ok hplain hcs).1
  split at hsql
  · simp at hsql
  · next hwritten =>
      have htext : text = (Condition.all cs).write.text := by simpa using hsql
      cases hpruned : (Condition.all cs).pruned with
      | none =>
          rw [hpruned] at hspells
          exact absurd (show (Condition.all cs).write.text = "" from hspells) (by simpa using hwritten)
      | some tree =>
          rw [hpruned] at hspells
          have hreads : ReadsAs text tree := htext ▸ hspells.whole
          refine ⟨tree, hreads, fun t ht => ht.unique hreads, ?_⟩
          rwa [columns_of_pruned hpruned]

/-- **A where clause depends on the columns that its filter names, and on no others.**  In two
schemas that agree on these columns the clause of a filter has the same outcome.  A column that is
compared in the text of a clause is one that the filter names and the schema has; where names are
plain that is so for what a shell reads.  The columns of a filter that was read are the keys of
its document and of the alternatives in it. -/
theorem whereSql_columns (filter : Filter) :
    (∀ schema other : Schema, schema.AgreesOn other filter.columnNames →
      (schema.whereSql (.filter filter)).outcome = (other.whereSql (.filter filter)).outcome) ∧
    (∀ (schema : Schema) (sql : String), (schema.whereSql (.filter filter)).outcome = .ok sql →
      ∃ condition, (schema.condition filter).outcome = .ok condition ∧
        sql = (if condition.write.text.isEmpty then "" else "where " ++ condition.write.text) ∧
        ∀ name ∈ condition.columns, name ∈ filter.columnNames ∧ name ∈ schema.names) ∧
    (∀ (schema : Schema) (text : String), schema.Plain →
      (schema.whereSql (.filter filter)).outcome = .ok ("where " ++ text) →
      ∃ tree, ReadsAs text tree ∧ (∀ t, ReadsAs text t → t = tree) ∧
        ∀ name ∈ tree.columns, name ∈ filter.columnNames ∧ name ∈ schema.names) ∧
    ∀ document, Filter.read document = .ok filter →
      ∀ name, name ∈ filter.columnNames ↔ Filter.Mentions name document := by
  refine ⟨?_, fun _ _ => condition_of_whereSql, ?_,
    fun _ h _ => Filter.mem_columnNames_iff h⟩
  · intro schema other h
    refine outcome_whereSql_congr ?_
    intro name hname
    exact h name (Filter.mem_columnNames.mpr hname)
  · intro schema text hplain h
    exact reads_whereSql hplain h

/-- Other places, types of one category, defaults and further columns make no difference, and
neither does a column that both schemas lack. -/
theorem whereSql_columns_reordered :
    let filter : Filter := [.compares "a" [(.gt, .text "xyz")],
      .anyOf [[.equals "lost" .null], [.equals "b" (.text "no")]]]
    let schema := ofColumns [.ofType "a" "text" (some 2), .ofType "b" "boolean" none]
    let other := ofColumns [.ofType "c" "blob" none, .ofType "b" "BOOLEAN flag" none,
      ⟨7, "a", "clob", some 2, some "''", true, true⟩]
    (schema.whereSql (.filter filter)).outcome = (other.whereSql (.filter filter)).outcome ∧
      (schema.whereSql (.filter filter)).outcome = .ok "where (a > 'xy') and (b = 1)" ∧
      ∃ tree, ReadsAs "(a > 'xy') and (b = 1)" tree ∧
        ∀ name ∈ tree.columns, name ∈ filter.columnNames ∧ name ∈ schema.names := by
  intro filter schema other
  have hagrees : schema.AgreesOn other filter.columnNames := by
    intro name hname
    have hmem : name ∈ ["a", "lost", "b"] := Filter.mem_columnNames.mp hname
    simp only [List.mem_cons, List.not_mem_nil, or_false] at hmem
    rcases hmem with rfl | rfl | rfl
    · exact .some (by decide)
    · exact .none
    · exact .some (by decide)
  have hplain : schema.Plain := by decide
  have hsql : (schema.whereSql (.filter filter)).outcome = .ok "where (a > 'xy') and (b = 1)" := by
    decide
  obtain ⟨hsame, -, hreads, -⟩ := whereSql_columns filter
  obtain ⟨tree, htree, -, hcolumns⟩ := hreads schema "(a > 'xy') and (b = 1)" hplain hsql
  exact ⟨hsame schema other hagrees, hsql, tree, htree, hcolumns⟩

end Schema

end RowShell
