/-
Decoding of query output.

The shell prints the values of a column as JSON, which tells numbers and text apart but
knows no other kind.  The category of the column decides as what kind a printed value is
read.
-/
import RowShell.Column.Basic
import RowShell.Value.Reading

namespace RowShell.Column

/-- A text as the number that it begins with, where that loses nothing a shell could not
print again: a finite number always, an infinite one if the text is its own. -/
def decodeLoose (value : Value) : Except Fault Value := do
  match value with
  | .int n => return .int n
  | .float x => return .float x
  | value =>
    let text ← value.display
    match ← value.leadingFloat? with
    | some x => return if x.isFinite || x.numberText == text then .float x else .text text
    | none => return .text text

/-- The integer that a text begins with, and null if it begins with none. -/
def leadingWhole (text : String) : Except Fault Value :=
  match Leading.integerDigits? text.toList with
  | none => .ok .null
  | some (negative, digits) =>
    match Numeral.value? digits with
    | some n => .ok (.int (Numeral.signed negative n))
    | none => .error .longNumeral

/-- A value as a whole number; of a text the integer that it begins with. -/
def decodeWhole (value : Value) : Except Fault Value := do
  match value with
  | .int _ | .bool _ | .float _ => return (value.whole?.map Value.int).getD .null
  | value => leadingWhole (← value.display)

/-- A value as true or false; only zero is false. -/
def decodeBoolean (value : Value) : Except Fault Value := do
  return .bool ((← value.leadingFloat?).all fun x => !x.isZero)

/-- Reads back a value that the shell printed for a column. -/
def decode (column : Column) (value : Value) : Except Fault Value :=
  match column.category, value with
  | .blob, _ => .ok (.map [])
  | _, .null => .ok .null
  | .boolean, value => decodeBoolean value
  | _, .list _ | _, .map _ => .ok .null
  | .string, value => return .text (← value.display)
  | .numeric, value | .typeless, value => decodeLoose value
  | .int, value => decodeWhole value
  | .real, value => return ((← value.leadingFloat?).map Value.float).getD .null
  | .datetime, value => return (value.timestamp?.map Value.timestamp).getD .null
  | .unclassified, _ => .ok .null

end RowShell.Column
