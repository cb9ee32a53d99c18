/-
What a schema does not know.

A document may name columns that the schema lacks and operators that do not exist, and a record
may name such columns.  They are passed over in different places: an operator when the document
is read, a clause when it becomes a condition, an entry of a record when it is written.
`statement_cleaned` says that all of it together is as if they had not been given.  A statement
is the same text with and without them, and where there is no statement or a fault, it is the
same with and without them as well.

Only outcomes are compared.  The log tells of an entry of a record that is passed over.
-/
import RowShell.Proofs.Filter.Restricted
import RowShell.Proofs.Schema.Mutation
import RowShell.Table

namespace RowShell

open Outcome

namespace Schema

variable {schema : Schema} {record : List (String × Value)}

/-- A document without the keys that the schema does not know, at every depth that is reached
through alternatives, and without operators that do not exist. -/
def cleaned (schema : Schema) (document : Value) : Value :=
  Filter.tidied .null schema.contains document

theorem cleaned_of_ne_map {document : Value} (h : ∀ entries, document ≠ .map entries) :
    schema.cleaned document = document := by
  cases document with
  | map entries => exact absurd rfl (h entries)
  | _ => rfl

theorem find?_eq_none {name : String} (h : ¬ schema.contains name = true) :
    schema.find? name = none := by
  simpa [contains] using h

/-! ### Conditions -/

/-- A clause on a column that the schema lacks is no condition. -/
theorem outcome_clauseConditions_of_unknown {clause : Clause} (hkey : clause.entry.1 ≠ Filter.orKey)
    (hunknown : ¬ schema.contains clause.entry.1 = true) :
    (schema.clauseConditions clause).outcome = .ok [] := by
  have hfind := find?_eq_none hunknown
  cases clause with
  | equals name operand =>
      change schema.find? name = none at hfind
      rw [clauseConditions, comparison, hfind]
      rfl
  | compares name comparisons =>
      change schema.find? name = none at hfind
      rw [clauseConditions]
      simp only [comparison, hfind]
      rw [List.mapM_pure]
      simp
  | anyOf branches => exact absurd rfl hkey

mutual

theorem outcome_clauseConditions_restrict : ∀ {clause : Clause},
    (schema.clauseConditions (clause.restrict schema.contains)).outcome =
      (schema.clauseConditions clause).outcome
  | .equals _ _ => rfl
  | .compares _ _ => rfl
  | .anyOf branches => by
      rw [Clause.restrict, clauseConditions, clauseConditions, Report.outcome_bind,
        Report.outcome_bind, outcome_branchConditions_restrict]

/-- **A filter has the same conditions without the columns that the schema lacks.** -/
theorem outcome_conditions_restrict : ∀ {filter : List Clause},
    (schema.conditions (Filter.restrict schema.contains filter)).outcome =
      (schema.conditions filter).outcome
  | [] => rfl
  | clause :: rest => by
      rw [Filter.restrict, outcome_conditions_cons]
      by_cases hkept : clause.entry.1 = Filter.orKey ∨ schema.contains clause.entry.1
      · rw [if_pos hkept, outcome_conditions_cons, outcome_clauseConditions_restrict,
          outcome_conditions_restrict]
      · rw [not_or] at hkept
        rw [if_neg (not_or.mpr hkept), outcome_conditions_restrict,
          outcome_clauseConditions_of_unknown hkept.1 hkept.2]
        cases (schema.conditions rest).outcome <;> rfl

theorem outcome_branchConditions_restrict : ∀ {branches : List (List Clause)},
    (schema.branchConditions (restrictBranches schema.contains branches)).outcome =
      (schema.branchConditions branches).outcome
  | [] => rfl
  | branch :: rest => by
      rw [restrictBranches, outcome_branchConditions_cons, outcome_branchConditions_cons,
        outcome_conditions_restrict, outcome_branchConditions_restrict]

end

/-! ### Selections -/

theorem read_cleaned (document : Value) :
    Filter.read (schema.cleaned document) =
      (Filter.read document).map (Filter.restrict schema.contains) := by
  rw [Filter.read, Filter.read, cleaned, Filter.ofValue_tidied rfl]
  cases Filter.ofValue document <;> rfl

/-- A map is read even if it is empty and counts as false. -/
theorem filter?_map (entries : List (String × Value)) :
    (Selection.document (.map entries)).filter? = Filter.read (.map entries) := by
  cases entries <;> rfl

/-- The filter of a cleaned document is the filter without the columns that the schema lacks. -/
theorem filter?_cleaned (document : Value) :
    (Selection.document (schema.cleaned document)).filter? =
      (Selection.document document).filter?.map (Filter.restrict schema.contains) := by
  cases document with
  | map entries =>
      -- The cleaned map may be empty, and count as false, where the whole one is not.
      rw [filter?_map, ← read_cleaned]
      exact filter?_map _
  | _ =>
      -- What is no map has the empty filter or a fault, and neither names a column.
      rw [cleaned_of_ne_map (by nofun), Selection.filter?]
      split <;> rfl

theorem outcome_whereSql_cleaned (document : Value) :
    (schema.whereSql (.document (schema.cleaned document))).outcome =
      (schema.whereSql (.document document)).outcome := by
  rw [outcome_whereSql, outcome_whereSql, filter?_cleaned]
  cases (Selection.document document).filter? with
  | error fault => rfl
  | ok filter =>
      change ((schema.conditions (Filter.restrict schema.contains filter)).outcome >>= _) =
        (schema.conditions filter).outcome >>= _
      rw [outcome_conditions_restrict]

/-- A document stays as well formed, or as malformed, as it is. -/
theorem wellFormed_cleaned {document : Value} :
    Filter.WellFormed (schema.cleaned document) ↔ Filter.WellFormed document := by
  rw [← Filter.exists_ofValue, ← Filter.exists_ofValue, cleaned, Filter.ofValue_tidied rfl]
  simp [map_eq_ok]

/-! ### Records -/

theorem insertItem_known {column : Column} (hcolumn : column ∈ schema.columns) :
    insertItem (schema.known record) column = insertItem record column := by
  have hcontains : schema.contains column.name = true := by
    rw [contains, find?_of_mem hcolumn]
    rfl
  unfold insertItem known
  rw [Keyed.value?_filter hcontains]

theorem outcome_valuesSql_known :
    (schema.valuesSql (schema.known record)).outcome = (schema.valuesSql record).outcome :=
  outcome_valuesSql_congr fun _ hcolumn => congrArg Report.outcome (insertItem_known hcolumn)

theorem outcome_assignments_known :
    (schema.assignments (schema.known record)).outcome = (schema.assignments record).outcome := by
  induction record with
  | nil => rfl
  | cons entry rest ih =>
      obtain ⟨name, value⟩ := entry
      by_cases hknown : schema.contains name = true
      · obtain ⟨column, hfind⟩ := Option.isSome_iff_exists.mp hknown
        rw [known_cons_of_pos hknown, assignments, assignments, hfind]
        simp only [Report.outcome_bind, ih]
      · rw [known_cons_of_neg hknown, assignments, find?_eq_none hknown, ih]
        rfl

end Schema

/-! ### Statements -/

namespace Table

open Schema

variable {table : Table}

/-- A statement has the outcome that its where clause gives it. -/
theorem outcome_statementWhere_congr {selection selection' : Selection}
    (h : (table.schema.whereSql selection).outcome = (table.schema.whereSql selection').outcome)
    (parts : List String) :
    (table.statementWhere parts selection).outcome =
      (table.statementWhere parts selection').outcome := by
  rw [statementWhere, statementWhere, Report.outcome_afterRefusal, Report.outcome_afterRefusal,
    Report.outcome_bind, Report.outcome_bind, h]

/-- A statement depends on its selection and record through its clause, its values and its
assignments only. -/
theorem outcome_statement_congr {selection selection' : Selection}
    {record record' : List (String × Value)}
    (hwhere : (table.schema.whereSql selection).outcome =
      (table.schema.whereSql selection').outcome)
    (hvalues : (table.schema.valuesSql record).outcome = (table.schema.valuesSql record').outcome)
    (hset : (table.schema.setSql record).outcome = (table.schema.setSql record').outcome)
    (kind : StatementKind) (projection : List (String × Value)) :
    (table.statement kind selection projection record).outcome =
      (table.statement kind selection' projection record').outcome := by
  have hparts := outcome_statementWhere_congr hwhere
  cases kind with
  | count => exact hparts _
  | select =>
      rw [statement, statement, Report.outcome_bind, Report.outcome_bind]
      congr
      funext columns
      split
      · rfl
      · exact hparts _
  | insert => rw [statement, statement, Report.outcome_bind, Report.outcome_bind, hvalues]
  | delete => exact hparts _
  | update =>
      rw [statement, statement, Report.outcome_bind, Report.outcome_bind, hset]
      congr
      funext items?
      cases items? with
      | none => rfl
      | some items => exact hparts _

/-- **What a schema does not know has no influence on a statement.**  A document without keys
that are neither columns nor alternatives and without operators that do not exist, together with
a record without keys that are no columns, gives the outcome that the whole ones give: the same
text, or nothing, or the same fault.  The document is malformed exactly if the whole one is. -/
theorem statement_cleaned (table : Table) (kind : StatementKind) (document : Value)
    (projection record : List (String × Value)) :
    (table.statement kind (.document (table.schema.cleaned document)) projection
      (table.schema.known record)).outcome =
        (table.statement kind (.document document) projection record).outcome ∧
    (Filter.WellFormed (table.schema.cleaned document) ↔ Filter.WellFormed document) := by
  refine ⟨?_, wellFormed_cleaned⟩
  exact outcome_statement_congr (table.schema.outcome_whereSql_cleaned document)
    outcome_valuesSql_known (outcome_setSql_congr outcome_assignments_known) kind projection

/-- A column that the schema lacks in a branch, and an operator that does not exist. -/
example : (ofColumns [.ofType "a" "text" none]).cleaned (.map [("b", .null), ("$or", .list
      [.map [("a", .map [("$gt", .text "x"), ("$like", .text "y")]), ("b", .null)], .null])]) =
    .map [("$or", .list [.map [("a", .map [("$gt", .text "x")])], .null])] := rfl

end Table

end RowShell
