/-
SQL literals.

A value becomes the literal by which a statement gives it to a column.  Text is quoted
with single quotes; numbers, Booleans and timestamps are numerals; what the column
cannot take is null.  The category of the column decides which.
-/
import RowShell.Column.Basic
import RowShell.Report
import RowShell.Value.Reading

namespace RowShell

namespace Literal

/-- The literal of no value. -/
def null : String := "null"

/-- The characters of a quoted text: every quote is written twice. -/
def doubled (cs : List Char) : List Char :=
  cs.flatMap fun c => if c == '\'' then ['\'', '\''] else [c]

/-- The literal of a text. -/
def quote (s : String) : String := String.ofList ('\'' :: doubled s.toList ++ ['\''])

/-- The literal of a binary64 number; one that is not finite has none but null. -/
def ofBinary64 (x : Binary64) : String := if x.isFinite then x.numberText else null

/-- The literal of a number that may be missing. -/
def ofBinary64? : Option Binary64 → String
  | some x => ofBinary64 x
  | none => null

end Literal

namespace Column

/-- The part of a text that fits the size of a column. -/
def truncated (column : Column) (s : String) : String :=
  match column.size with
  | none => s
  | some size => String.ofList (s.toList.take size)

/-- The literal of a number as it is, and of any other value as quoted text. -/
def looseLiteral : Value → Except Fault String
  | .int n => Value.numeral n
  | .float x => .ok (Literal.ofBinary64 x)
  | value => do return Literal.quote (← value.display)

/-- The literal of a whole number.  A number loses its fraction; the number that a text
begins with keeps it. -/
def wholeLiteral : Value → Except Fault String
  | .int n => Value.numeral n
  | .float x =>
    match x.trunc? with
    | some n => Value.numeral n
    | none => .ok Literal.null
  | value => do return Literal.ofBinary64? (← value.leadingFloat?)

/-- The literal of the milliseconds that stand for a timestamp. -/
def timestampLiteral (t : Timestamp) : Except Fault String :=
  match t.epochMillis? with
  | some millis => Value.numeral millis
  | none => .error .beforeCalendar

/-- The literal of a value for a column. -/
def literal (column : Column) (value : Value) : Report String :=
  match value with
  | .null => pure Literal.null
  | value =>
    match column.category with
    | .string => do
      let text ← (value.storedText : Except Fault String)
      return Literal.quote (column.truncated text)
    | .numeric | .typeless => looseLiteral value
    | .int => wholeLiteral value
    | .real => do
      let number ← (value.leadingFloat? : Except Fault (Option Binary64))
      return Literal.ofBinary64? number
    | .blob => pure Literal.null
    | .boolean => pure (if value.isTruthy then "1" else "0")
    | .datetime =>
      match value.timestamp? with
      | some t => timestampLiteral t
      | none => do
        let shown ← (value.inspect : Except Fault String)
        Report.entry .warning s!"Column {column.name}: cannot read {shown} as a date/time"
        return Literal.null
    | .unclassified => do
      let shown ← (value.inspect : Except Fault String)
      Report.entry .warning
        s!"Column {column.name}: no literal form for type '{column.base}' ({shown})"
      return Literal.null

end Column

end RowShell
