/-
Tables.

The operations on a table count, find, insert, remove and update rows.  Each builds one
statement and asks for it to be run; a statement that cannot be built is not asked for.
A refused selection or result is logged and the operation answers with nothing, as it
does when the statement could not be run.
-/
import RowShell.Dialogue
import RowShell.Schema.Mutation
import RowShell.Schema.Projection
import RowShell.Schema.Rows
import RowShell.Schema.Selection

namespace RowShell

structure Table where
  /-- The database that holds the table. -/
  target : String
  name : String
  schema : Schema

inductive StatementKind where
  | count
  | select
  | insert
  | delete
  | update
  deriving DecidableEq

def StatementKind.ofName? : String → Option StatementKind
  | "count" => some .count
  | "select" => some .select
  | "insert" => some .insert
  | "delete" => some .delete
  | "update" => some .update
  | _ => none

namespace Table

/-- A table as it is shown. -/
def inspect (table : Table) : String :=
  "TableHandle(" ++ Text.inspect table.name ++ ", " ++ table.schema.inspect ++ ")"

/-- Logs a fault, and answers with nothing. -/
def refuse {α : Type} (table : Table) (text : String) : Report (Option α) := do
  Report.entry .error (table.name ++ ": " ++ text)
  return none

/-! ### Statements -/

/-- A statement of the parts given and the where clause of a selection. -/
def statementWhere (table : Table) (parts : List String) (selection : Selection) :
    Report (Option String) :=
  Report.afterRefusal
    (do
      let clause ← table.schema.whereSql selection
      let parts := if clause.isEmpty then parts else parts ++ [clause]
      return some (" ".intercalate parts ++ ";"))
    fun fault => table.refuse fault.message

/-- The statement of a kind, or nothing if it cannot be built.  A kind takes what it
needs of the selection, the projection and the record. -/
def statement (table : Table) (kind : StatementKind) (selection : Selection)
    (projection record : List (String × Value)) : Report (Option String) :=
  match kind with
  | .count => table.statementWhere ["select count(*) from", table.name] selection
  | .select => do
    let columns ← table.schema.projectionSql projection
    if columns.isEmpty then
      let shown ← ((Value.map projection).display : Except Fault String)
      table.refuse s!"projection selects no columns ({shown})"
    else table.statementWhere ["select", columns, "from", table.name] selection
  | .insert => do
    return (← table.schema.valuesSql record).map fun values =>
      "insert into " ++ table.name ++ " " ++ values ++ ";"
  | .delete => table.statementWhere ["delete from", table.name] selection
  | .update => do
    match ← table.schema.setSql record with
    | none => return none
    | some items => table.statementWhere ["update", table.name, items] selection

/-- The statement of a kind given by its name. -/
def statementOf (table : Table) (kindName : String) (selection : Selection)
    (projection record : List (String × Value)) : Report (Option String) :=
  match StatementKind.ofName? kindName with
  | some kind => table.statement kind selection projection record
  | none => Report.fail .unknownStatement

/-! ### Operations -/

/-- Asks for a statement to be run, if it could be built, and answers with its output. -/
def run (table : Table) (mode : Mode) (statement : Report (Option String)) :
    Dialogue (Option (String × String)) := do
  match ← (statement : Report (Option String)) with
  | none => return none
  | some sql =>
    match ← Dialogue.call ⟨table.target, sql, mode⟩ with
    | some output => return some (sql, output)
    | none => (table.refuse ("execution failed: " ++ sql) : Report _)

/-- The number of selected rows. -/
def count (table : Table) (selection : Selection) : Dialogue (Option Int) := do
  match ← table.run .read (table.statement .count selection [] []) with
  | none => return none
  | some (_, output) =>
    match Numeral.readInt? (Text.trim output.toList) with
    | some n => return some n
    | none => (table.refuse ("unexpected count output " ++ Text.inspect output) : Report _)

/-- The selected rows, with the columns of a projection. -/
def find (table : Table) (selection : Selection) (projection : List (String × Value)) :
    Dialogue (Option (List (List (String × Value)))) := do
  match ← table.run .readJson (table.statement .select selection projection []) with
  | none => return none
  | some (sql, output) =>
    (Report.afterRefusal (do return some (← table.schema.readRows output))
      fun fault => table.refuse (fault.message ++ " [" ++ sql ++ "]") : Report _)

/-- Whether a statement that changes the database was run. -/
def change (table : Table) (statement : Report (Option String)) : Dialogue Bool := do
  return (← table.run .write statement).isSome

/-- Inserts a record. -/
def insert (table : Table) (record : List (String × Value)) : Dialogue Bool :=
  table.change (table.statement .insert (.filter []) [] record)

/-- Removes the selected rows. -/
def remove (table : Table) (selection : Selection) : Dialogue Bool :=
  table.change (table.statement .delete selection [] [])

/-- Gives the values of a record to the selected rows. -/
def update (table : Table) (selection : Selection) (record : List (String × Value)) :
    Dialogue Bool :=
  table.change (table.statement .update selection [] record)

end Table

end RowShell
