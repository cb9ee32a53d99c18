/-
Selections: the rows that a statement is about.

A selection is a filter, or the document of one.  A schema turns it into a condition: a
clause on a column that the schema lacks is left out, and the operands become literals
of their columns.  A document that counts as false selects every row.
-/
import RowShell.Column.Literal
import RowShell.Condition
import RowShell.Filter
import RowShell.Schema.Basic

namespace RowShell

inductive Selection where
  | document (value : Value)
  | filter (clauses : Filter)

/-- The filter of a selection. -/
def Selection.filter? : Selection → Except Fault Filter
  | .document value => if value.isTruthy then Filter.read value else .ok []
  | .filter clauses => .ok clauses

namespace Schema

/-- The comparison of a column with the literal of an operand, if the schema has the
column. -/
def comparison (schema : Schema) (name sql : String) (operand : Value) : Report (List Condition) :=
  match schema.find? name with
  | none => pure []
  | some column => do return [.compare name sql (← column.literal operand)]

mutual

/-- The conditions of a clause: one for each comparison, or that of its branches. -/
def clauseConditions (schema : Schema) : Clause → Report (List Condition)
  | .equals name operand => schema.comparison name "=" operand
  | .compares name comparisons => do
    return (← comparisons.mapM fun (op, operand) => schema.comparison name op.sql operand).flatten
  | .anyOf branches => do return [.any (← branchConditions schema branches)]

/-- The conditions of clauses, in order. -/
def conditions (schema : Schema) : List Clause → Report (List Condition)
  | [] => pure []
  | clause :: rest => do
    let first ← clauseConditions schema clause
    return first ++ (← conditions schema rest)

/-- The conditions of branches, one for each. -/
def branchConditions (schema : Schema) : List (List Clause) → Report (List Condition)
  | [] => pure []
  | branch :: rest => do
    let first ← conditions schema branch
    return .all first :: (← branchConditions schema rest)

end

/-- The condition that a filter stands for. -/
def condition (schema : Schema) (filter : Filter) : Report Condition := do
  return .all (← schema.conditions filter)

/-- The where clause of a selection, empty if every row is selected. -/
def whereSql (schema : Schema) (selection : Selection) : Report String := do
  let filter ← (selection.filter? : Except Fault Filter)
  let written := (← schema.condition filter).write
  return if written.text.isEmpty then "" else "where " ++ written.text

end Schema

end RowShell
