/-
Rows of a query result.

The shell prints a query result as a JSON array of objects, and nothing at all if there
are no rows.  The values of the columns of the schema are decoded; those of other keys,
such as the row number, stay as they were printed.
-/
import RowShell.Column.Decoding
import RowShell.Schema.Basic

namespace RowShell.Schema

/-- Decodes the value under a key. -/
def decodeEntry (schema : Schema) : String × Value → Except Fault (String × Value)
  | (key, value) =>
    match schema.find? key with
    | none => .ok (key, value)
    | some column => do return (key, ← column.decode value)

/-- The entries of rows, if all of them are objects. -/
def rowEntries? (rows : List Value) : Option (List (List (String × Value))) :=
  rows.mapM fun
    | .map entries => some entries
    | _ => none

/-- Reads a query result. -/
def readRows (schema : Schema) (output : String) : Except Fault (List (List (String × Value))) :=
  if (Text.strip output).isEmpty then .ok []
  else
    match Json.read .lenient output with
    | .error .malformed => .error (.output .malformed)
    | .error .longNumeral => .error .longNumeral
    | .ok (.list rows) =>
      match rowEntries? rows with
      | some rows => rows.mapM fun row => row.mapM schema.decodeEntry
      | none => .error (.output .notRows)
    | .ok _ => .error (.output .notRows)

end RowShell.Schema
