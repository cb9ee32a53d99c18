/-
Values.

A value is what a caller stores or filters by and what a query answers: null, a
Boolean, a number, text, bytes, a date with or without a time, a list, or a map from
text to values.  A map lists its entries in the order in which their keys were first
given, each key once.
-/
import RowShell.Time.Timestamp

namespace RowShell

inductive Value where
  | null
  | bool (b : Bool)
  | int (n : Int)
  | float (x : Binary64)
  | text (s : String)
  | bytes (data : List UInt8)
  | timestamp (t : Timestamp)
  | date (d : Date)
  | list (items : List Value)
  | map (entries : List (String × Value))
  deriving Inhabited

namespace Value

/-- The name of a value's kind. -/
def kind : Value → String
  | .null => "NoneType"
  | .bool _ => "bool"
  | .int _ => "int"
  | .float _ => "float"
  | .text _ => "str"
  | .bytes _ => "bytes"
  | .timestamp _ => "datetime"
  | .date _ => "date"
  | .list _ => "list"
  | .map _ => "dict"

/-- Whether a value counts as true: null, false, zero and whatever is empty do not. -/
def isTruthy : Value → Bool
  | .null => false
  | .bool b => b
  | .int n => n != 0
  | .float x => !x.isZero
  | .text s => !s.isEmpty
  | .bytes data => !data.isEmpty
  | .timestamp _ => true
  | .date _ => true
  | .list items => !items.isEmpty
  | .map entries => !entries.isEmpty

end Value

end RowShell
