/-
Records in insertions and updates.

An insertion gives a value to every column in order: that of the record, or else the
declared default, or else null.  It is refused if a column that must not be null would
get none.  An update gives values to the columns that the record names.
-/
import RowShell.Column.Literal
import RowShell.Schema.Basic

namespace RowShell.Schema

/-! ### Insertion -/

/-- The item of a column in an insertion, or nothing if the insertion is refused. -/
def insertItem (record : List (String × Value)) (column : Column) : Report (Option String) :=
  match Keyed.value? column.name record, column.defaultSql with
  | some .null, _ =>
    if column.notNull then do
      Report.entry .error s!"Insert: column '{column.name}' is not null"
      return none
    else return some Literal.null
  | some value, _ => do return some (← column.literal value)
  | none, some sql => return some sql
  | none, none =>
    if column.notNull then do
      Report.entry .error s!"Insert: no value or default for not-null column '{column.name}'"
      return none
    else return some Literal.null

/-- The items of columns in order, up to the first that is refused. -/
def insertItems (record : List (String × Value)) : List Column → Report (Option (List String))
  | [] => return some []
  | column :: rest => do
    match ← insertItem record column with
    | none => return none
    | some item => return (← insertItems record rest).map (item :: ·)

/-- The values of an insertion. -/
def valuesSql (schema : Schema) (record : List (String × Value)) : Report (Option String) := do
  return (← insertItems record schema.columns).map fun items =>
    "values(" ++ ", ".intercalate items ++ ")"

/-! ### Update -/

/-- The assignments of an update, in the order of the record. -/
def assignments (schema : Schema) : List (String × Value) → Report (List String)
  | [] => return []
  | (name, value) :: rest =>
    match schema.find? name with
    | none => do
      Report.entry .warning s!"Update skips unknown column '{name}'"
      schema.assignments rest
    | some column => do
      let literal ← column.literal value
      return (name ++ " = " ++ literal) :: (← schema.assignments rest)

/-- The keys of a record, sorted, as they are shown. -/
def shownKeys (record : List (String × Value)) : String :=
  "[" ++ ", ".intercalate (((record.map Prod.fst).mergeSort (· ≤ ·)).map Text.inspect) ++ "]"

/-- The assignments of an update, or nothing if no column is named. -/
def setSql (schema : Schema) (record : List (String × Value)) : Report (Option String) := do
  match ← schema.assignments record with
  | [] =>
    Report.entry .error ("Update: no known columns in " ++ shownKeys record)
    return none
  | items => return some ("set " ++ ", ".intercalate items)

end RowShell.Schema
