/-
Statements with whole numbers.

A caller may give a whole number as an integer or as the binary64 number that equals it, and a
record or a document may mix the two.  Each such number can be put into the form of an integer,
and the statement is still the same text: `statement_equal_numbers`.  So a row that was inserted
with the one is found by the other.

In a document only operands are numbers that are compared.  A list or a map that a column has to
equal is compared by its text, which tells the two forms apart, and stays as it is.
-/
import RowShell.Proofs.Column.Whole
import RowShell.Proofs.Table.Unknown

namespace RowShell

open Outcome

/-- A value with a whole binary64 number below `10 ^ 21` in the form of an integer. -/
def Value.integral : Value → Value
  | .float x =>
    match x.toInt? with
    | some n => if n.natAbs < 10 ^ 21 then .int n else .float x
    | none => .float x
  | value => value

theorem Value.integral_float (x : Binary64) :
    (∃ n, x.toInt? = some n ∧ n.natAbs < 10 ^ 21 ∧ (Value.float x).integral = .int n) ∨
      (Value.float x).integral = .float x := by
  rw [integral]
  cases hx : x.toInt? with
  | none => exact .inr rfl
  | some n =>
      by_cases hn : n.natAbs < 10 ^ 21
      · exact .inl ⟨n, rfl, hn, if_pos hn⟩
      · exact .inr (if_neg hn)

theorem Value.integral_eq_null {value : Value} : value.integral = .null ↔ value = .null := by
  cases value with
  | float x =>
      refine iff_of_false ?_ nofun
      rcases integral_float x with ⟨n, -, -, h⟩ | h
      · rw [h]
        nofun
      · rw [h]
        nofun
  | _ => exact Iff.rfl

/-- A record with its whole numbers in the form of integers. -/
def Value.integralFields (record : List (String × Value)) : List (String × Value) :=
  record.map fun (name, value) => (name, value.integral)

mutual

/-- A clause with whole numbers in the form of integers. -/
def Clause.integral : Clause → Clause
  | .equals column operand => .equals column operand.integral
  | .compares column comparisons =>
    .compares column (comparisons.map fun (op, operand) => (op, operand.integral))
  | .anyOf branches => .anyOf (integralBranches branches)

def Filter.integral : List Clause → List Clause
  | [] => []
  | clause :: rest => clause.integral :: Filter.integral rest

def integralBranches : List (List Clause) → List (List Clause)
  | [] => []
  | branch :: rest => Filter.integral branch :: integralBranches rest

end

namespace Filter

/-! ### Documents -/

mutual

/-- A document with the whole numbers among its operands in the form of integers. -/
def integralDocument : Value → Value
  | .map entries => .map (integralEntries entries)
  | document => document

def integralEntries : List (String × Value) → List (String × Value)
  | [] => []
  | (key, value) :: rest => (key, integralEntry key value) :: integralEntries rest

/-- The value of a key: only lists of alternatives hold documents, and only maps of columns hold
operands. -/
def integralEntry (key : String) : Value → Value
  | .list items => .list (if key = orKey then integralItems items else items)
  | .map entries => .map (if key = orKey then entries else Value.integralFields entries)
  | value => if key = orKey then value else value.integral

def integralItems : List Value → List Value
  | [] => []
  | document :: rest => integralDocument document :: integralItems rest

end

theorem comparisons_integralFields (entries : List (String × Value)) :
    comparisons (Value.integralFields entries) =
      (comparisons entries).map fun (op, operand) => (op, operand.integral) := by
  induction entries with
  | nil => rfl
  | cons entry rest ih =>
      obtain ⟨key, operand⟩ := entry
      change comparisons ((key, operand.integral) :: Value.integralFields rest) = _
      cases hop : Operator.ofKey? key with
      | none => rw [comparisons_cons_none hop, comparisons_cons_none hop, ih]
      | some op =>
          obtain rfl := Operator.ofKey?_eq_some.mp hop
          rw [comparisons_cons_key, comparisons_cons_key, ih, List.map_cons]

/-- A number stays one. -/
theorem ofColumn_integral_float (column : String) (x : Binary64) :
    Clause.ofColumn column (Value.float x).integral = .equals column (Value.float x).integral := by
  rcases Value.integral_float x with ⟨n, -, -, h⟩ | h
  · rw [h, Clause.ofColumn]
    nofun
  · rw [h, Clause.ofColumn]
    nofun

theorem ofEntry_integral_of_ne {key : String} (hkey : key ≠ orKey) (value : Value) :
    ofEntry key (integralEntry key value) = (ofEntry key value).map Clause.integral := by
  rw [ofEntry_of_ne hkey, ofEntry_of_ne hkey]
  refine congrArg Except.ok ?_
  cases value with
  | map entries =>
      rw [integralEntry, if_neg hkey, Clause.ofColumn, comparisons_integralFields]
      rfl
  | list items =>
      rw [integralEntry, if_neg hkey]
      rfl
  | float x =>
      change Clause.ofColumn key (if key = orKey then _ else (Value.float x).integral) = _
      rw [if_neg hkey, ofColumn_integral_float]
      rfl
  | _ =>
      change Clause.ofColumn key (if key = orKey then _ else Value.integral _) = _
      rw [if_neg hkey]
      rfl

mutual

/-- **A document with whole numbers as integers is read as the filter with whole numbers as
integers**, or refused as the document is. -/
theorem ofValue_integral : ∀ {document : Value},
    ofValue (integralDocument document) = (ofValue document).map integral
  | .map entries => by
      rw [integralDocument, ofValue, ofValue]
      exact ofEntries_integral
  | .null | .bool _ | .int _ | .float _ | .text _ | .bytes _ | .timestamp _ | .date _ | .list _ =>
      rfl

theorem ofEntries_integral : ∀ {entries : List (String × Value)},
    ofEntries (integralEntries entries) = (ofEntries entries).map integral
  | [] => rfl
  | (key, value) :: rest => by
      rw [integralEntries, ofEntries, ofEntries, ofEntry_integral, ofEntries_integral]
      cases ofEntry key value with
      | error fault => rfl
      | ok clause => cases ofEntries rest <;> rfl

theorem ofEntry_integral {key : String} : ∀ {value : Value},
    ofEntry key (integralEntry key value) = (ofEntry key value).map Clause.integral
  | .list items => by
      by_cases hkey : key = orKey
      · subst hkey
        rw [integralEntry, if_pos rfl, ofEntry_orKey_list, ofEntry_orKey_list, ofBranches_integral]
        cases ofBranches items <;> rfl
      · exact ofEntry_integral_of_ne hkey _
  | .null | .bool _ | .int _ | .float _ | .text _ | .bytes _ | .timestamp _ | .date _ | .map _ => by
      by_cases hkey : key = orKey
      · subst hkey
        rfl
      · exact ofEntry_integral_of_ne hkey _

theorem ofBranches_integral : ∀ {items : List Value},
    ofBranches (integralItems items) = (ofBranches items).map integralBranches
  | [] => rfl
  | document :: rest => by
      rw [integralItems, ofBranches, ofBranches, ofValue_integral, ofBranches_integral]
      cases ofValue document with
      | error fault => rfl
      | ok branch => cases ofBranches rest <;> rfl

end

end Filter

/-- A selection with the whole numbers among its operands in the form of integers. -/
def Selection.integral : Selection → Selection
  | .document value => .document (Filter.integralDocument value)
  | .filter clauses => .filter (Filter.integral clauses)

theorem Filter.isTruthy_integralDocument (document : Value) :
    (integralDocument document).isTruthy = document.isTruthy := by
  cases document with
  | map entries => cases entries <;> rfl
  | _ => rfl

theorem Selection.filter?_integral (selection : Selection) :
    selection.integral.filter? = selection.filter?.map Filter.integral := by
  cases selection with
  | filter clauses => rfl
  | document document =>
      rw [integral, filter?, filter?, Filter.isTruthy_integralDocument, Filter.read, Filter.read,
        Filter.ofValue_integral]
      split
      · cases Filter.ofValue document <;> rfl
      · rfl

/-! ### Literals, conditions and items -/

theorem Column.outcome_literal_integral (column : Column) (value : Value) :
    (column.literal value.integral).outcome = (column.literal value).outcome := by
  cases value with
  | float x =>
      rcases Value.integral_float x with ⟨n, hx, hn, h⟩ | h
      · rw [h, column.outcome_literal_int hx hn, column.outcome_literal_float hx hn]
      · rw [h]
  | _ => rfl

namespace Schema

variable {schema : Schema} {record : List (String × Value)}

theorem outcome_comparison_integral (name sign : String) (operand : Value) :
    (schema.comparison name sign operand.integral).outcome =
      (schema.comparison name sign operand).outcome := by
  unfold comparison
  cases schema.find? name with
  | none => rfl
  | some column =>
      rw [Report.outcome_bind, Report.outcome_bind, column.outcome_literal_integral]

mutual

theorem outcome_clauseConditions_integral : ∀ {clause : Clause},
    (schema.clauseConditions clause.integral).outcome = (schema.clauseConditions clause).outcome
  | .equals name operand => outcome_comparison_integral name "=" operand
  | .compares name comparisons => by
      rw [Clause.integral, clauseConditions, clauseConditions, Report.outcome_bind,
        Report.outcome_bind, Report.outcome_mapM, Report.outcome_mapM, List.mapM_map]
      simp only [Function.comp_def, outcome_comparison_integral]
  | .anyOf branches => by
      rw [Clause.integral, clauseConditions, clauseConditions, Report.outcome_bind,
        Report.outcome_bind, outcome_branchConditions_integral]

theorem outcome_conditions_integral : ∀ {filter : List Clause},
    (schema.conditions (Filter.integral filter)).outcome = (schema.conditions filter).outcome
  | [] => rfl
  | clause :: rest => by
      rw [Filter.integral, outcome_conditions_cons, outcome_conditions_cons,
        outcome_clauseConditions_integral, outcome_conditions_integral]

theorem outcome_branchConditions_integral : ∀ {branches : List (List Clause)},
    (schema.branchConditions (integralBranches branches)).outcome =
      (schema.branchConditions branches).outcome
  | [] => rfl
  | branch :: rest => by
      rw [integralBranches, outcome_branchConditions_cons, outcome_branchConditions_cons,
        outcome_conditions_integral, outcome_branchConditions_integral]

end

theorem outcome_whereSql_integral (selection : Selection) :
    (schema.whereSql selection.integral).outcome = (schema.whereSql selection).outcome := by
  rw [outcome_whereSql, outcome_whereSql, selection.filter?_integral]
  cases selection.filter? with
  | error fault => rfl
  | ok filter =>
      change ((schema.conditions (Filter.integral filter)).outcome >>= _) =
        (schema.conditions filter).outcome >>= _
      rw [outcome_conditions_integral]

theorem value?_integralFields (record : List (String × Value)) (name : String) :
    Keyed.value? name (Value.integralFields record) =
      (Keyed.value? name record).map Value.integral := by
  unfold Keyed.value? Keyed.find? Value.integralFields
  rw [List.find?_map, Option.map_map, Option.map_map]
  rfl

theorem insertItem_of_ne_null {column : Column} {value : Value}
    (hvalue : Keyed.value? column.name record = some value) (hnull : value ≠ .null) :
    insertItem record column = do return some (← column.literal value) := by
  unfold insertItem
  rw [hvalue]
  cases value with
  | null => exact absurd rfl hnull
  | _ => rfl

theorem outcome_insertItem_integral (column : Column) :
    (insertItem (Value.integralFields record) column).outcome =
      (insertItem record column).outcome := by
  have hfields := value?_integralFields record column.name
  cases hvalue : Keyed.value? column.name record with
  | none =>
      rw [hvalue] at hfields
      unfold insertItem
      rw [hvalue, hfields]
      rfl
  | some value =>
      rw [hvalue] at hfields
      by_cases hnull : value = .null
      · subst hnull
        unfold insertItem
        rw [hvalue, hfields]
        rfl
      · rw [insertItem_of_ne_null hvalue hnull,
          insertItem_of_ne_null hfields (mt Value.integral_eq_null.mp hnull),
          Report.outcome_bind, Report.outcome_bind, column.outcome_literal_integral]

theorem outcome_assignments_integral :
    (schema.assignments (Value.integralFields record)).outcome =
      (schema.assignments record).outcome := by
  induction record with
  | nil => rfl
  | cons entry rest ih =>
      obtain ⟨name, value⟩ := entry
      change (schema.assignments ((name, value.integral) :: Value.integralFields rest)).outcome = _
      rw [assignments, assignments]
      cases schema.find? name with
      | none => simp only [Report.outcome_bind, ih]
      | some column => simp only [Report.outcome_bind, ih, column.outcome_literal_integral]

end Schema

/-! ### Statements -/

namespace Table

open Schema

variable {x : Binary64} {n : Int}

theorem outcome_statement_integral (table : Table) (kind : StatementKind) (selection : Selection)
    (projection record : List (String × Value)) :
    (table.statement kind selection.integral projection (Value.integralFields record)).outcome =
      (table.statement kind selection projection record).outcome :=
  outcome_statement_congr (table.schema.outcome_whereSql_integral selection)
    (outcome_valuesSql_congr fun column _ => outcome_insertItem_integral column)
    (outcome_setSql_congr outcome_assignments_integral) kind projection

/-- **Equal numbers are written alike.**  Every column has a literal for an integer below
`10 ^ 21`, and the same one for the binary64 number that equals it, whatever its sign at zero.  So
a statement is the same text, or fails in the same way, if such numbers in its record and among
the operands of its selection are given as integers. -/
theorem statement_equal_numbers (hx : x.toInt? = some n) (hn : n.natAbs < 10 ^ 21) :
    (∀ column : Column, ∃ text, (column.literal (.int n)).outcome = .ok text ∧
      (column.literal (.float x)).outcome = .ok text) ∧
    (Value.float x).integral = .int n ∧
    ∀ (table : Table) (kind : StatementKind) (selection : Selection)
      (projection record : List (String × Value)),
      (table.statement kind selection.integral projection (Value.integralFields record)).outcome =
        (table.statement kind selection projection record).outcome := by
  refine ⟨?_, ?_, outcome_statement_integral⟩
  · intro column
    exact ⟨_, column.outcome_literal_int hx hn, column.outcome_literal_float hx hn⟩
  · rw [Value.integral, hx]
    exact if_pos hn

/-- Zero with a minus sign, in a text column. -/
theorem statement_equal_numbers_minusZero :
    let column := Column.ofType "a" "text" none
    (column.literal (.int 0)).outcome = .ok "'0'" ∧
    (column.literal (.float (.finite true ⟨0, by decide⟩))).outcome = .ok "'0'" := by
  intro column
  have hequal : (Binary64.finite true ⟨0, by decide⟩).toInt? = some 0 := by decide +kernel
  obtain ⟨text, hint, hfloat⟩ := (statement_equal_numbers hequal (by decide)).1 column
  have hwritten : column.integerLiteral 0 = "'0'" := by decide +kernel
  have htext := column.outcome_literal_int hequal (by decide)
  rw [hwritten] at htext
  rw [htext] at hint
  cases hint
  exact ⟨htext, hfloat⟩

end Table

end RowShell
