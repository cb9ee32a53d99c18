/-
Projections: the columns that a query answers.

A projection flags columns by name.  Without one a query answers the row number and
every column.
-/
import RowShell.Report
import RowShell.Schema.Basic

namespace RowShell.Schema

/-- The row number, which every table has beside its columns. -/
def rowid : String := "rowid"

/-- The flagged names that are columns, in the order of the projection. -/
def flagged (schema : Schema) : List (String × Value) → Report (List String)
  | [] => pure []
  | (name, flag) :: rest =>
    if !flag.isTruthy then schema.flagged rest
    else if schema.contains name then do return name :: (← schema.flagged rest)
    else do
      Report.entry .warning s!"Projection skips unknown column '{name}'"
      schema.flagged rest

/-- The list of columns of a query, empty if no column is flagged. -/
def projectionSql (schema : Schema) (projection : List (String × Value)) : Report String := do
  if projection.isEmpty then return ", ".intercalate (rowid :: schema.names)
  else return ", ".intercalate (← schema.flagged projection)

end RowShell.Schema
