/-
Schemas.

A schema is the columns of a table in the order of their places, each name once.  It is
read from the listing that the shell prints for the table, as text or decoded.
-/
import RowShell.Column.Listing

namespace RowShell

structure Schema where
  columns : List Column
  distinct : (columns.map Column.name).Nodup

namespace Schema

/-- The columns of a list, each name once: at its first place, with its last column. -/
def ofColumns (columns : List Column) : Schema :=
  ⟨Keyed.ofList Column.name columns, Keyed.nodup_ofList Column.name columns⟩

/-- The columns of rows in the order of their places; rows with one place keep their
order. -/
def ofRows (rows : List ColumnRow) : Except Fault Schema := do
  let sorted := rows.mergeSort fun a b => a.cid ≤ b.cid
  return ofColumns (← sorted.mapM ColumnRow.column)

/-- Reads a decoded listing. -/
def ofListing (listing : Value) : Except Fault Schema :=
  match ColumnRow.listing? listing with
  | some rows => ofRows rows
  | none => .error .columns

/-- Reads the text of a listing. -/
def ofText (text : String) : Except Fault Schema :=
  match Json.read .strict text with
  | .ok listing => ofListing listing
  | .error _ => .error .columns

/-- The names of the columns in order. -/
def names (schema : Schema) : List String := schema.columns.map Column.name

/-- The column with a name. -/
def find? (schema : Schema) (name : String) : Option Column :=
  Keyed.find? Column.name name schema.columns

def contains (schema : Schema) (name : String) : Bool := (schema.find? name).isSome

/-- The names of the columns as they are shown. -/
def inspect (schema : Schema) : String :=
  "TableSchema(" ++ ", ".intercalate schema.names ++ ")"

end Schema

end RowShell
