/-
Column listings.

The shell lists the columns of a table as a JSON array with one object per column.  A
row is accepted if its place and its name can be read; whole numbers may be written as
numbers, Booleans or text.  Keys other than those of a row are ignored.
-/
import RowShell.Column.Basic
import RowShell.Column.Declaration
import RowShell.Json
import RowShell.Value.Display

namespace RowShell

/-- One column as listed. -/
structure ColumnRow where
  cid : Int
  name : String
  declared : String
  notNull : Int
  defaultSql : Option String
  primaryKey : Int
  deriving DecidableEq

namespace ColumnRow

open Text

/-! ### Whole numbers -/

/-- The text without the white space on both sides. -/
def trimSpace (cs : List Char) : List Char :=
  ((cs.dropWhile isWhiteSpace).reverse.dropWhile isWhiteSpace).reverse

/-- Drops the zeros and underscores that follow a leading zero, up to a digit or a minus
sign, or up to the last character before a point or before the end. -/
def dropZeros? : Char → List Char → Option (List Char)
  | previous, [] => some [previous]
  | previous, c :: rest =>
    if c == '0' || c == '_' then dropZeros? c rest
    else if isAsciiDigit c || c == '-' then some (c :: rest)
    else if c == '.' then some (previous :: c :: rest)
    else none

/-- Drops leading zeros; the text has to begin with a digit. -/
def dropLeadingZeros? : List Char → Option (List Char)
  | [] => none
  | '0' :: rest => dropZeros? '0' rest
  | c :: rest => if isAsciiDigit c then some (c :: rest) else none

/-- Drops a plus sign, and the leading zeros after a sign. -/
def dropSignedZeros? : List Char → Option (List Char)
  | '-' :: rest => (dropLeadingZeros? rest).map ('-' :: ·)
  | '+' :: rest => dropLeadingZeros? rest
  | cs => dropLeadingZeros? cs

/-- Drops a point and the zeros after it, of which there is at least one, if they end the
text. -/
def dropPoint (cs : List Char) : List Char :=
  let zeros := (cs.dropWhile (· != '.')).drop 1
  if !zeros.isEmpty && zeros.all (· == '0') then cs.takeWhile (· != '.') else cs

/-- Drops underscores, unless one stands at an end or next to another. -/
def dropUnderscores (cs : List Char) : List Char :=
  if (cs.splitOnP (· == '_')).all (!·.isEmpty) then cs.filter (· != '_') else cs

/-- Reads a numeral without superfluous characters.  Its sign counts toward its length. -/
def plainInt? (cs : List Char) : Option Int :=
  let (negative, digits) := match cs with
    | '-' :: rest => (true, rest)
    | cs => (false, cs)
  if digits.isEmpty || !digits.all isAsciiDigit || (digits.head? == some '0' && digits.length != 1)
    || Numeral.maxDigits < cs.length
  then none
  else some (Numeral.signed negative (Numeral.value digits))

/-- Reads a text as a whole number. -/
def int? (s : String) : Option Int := do
  plainInt? (dropUnderscores (dropPoint (← dropSignedZeros? (trimSpace s.toList))))

/-- Reads a value as a whole number.  A binary64 number has to be whole and of less than
64 bits. -/
def wholeField? : Value → Option Int
  | .bool b => some (if b then 1 else 0)
  | .int n => some n
  | .float x => do
    let n ← x.toInt?
    if n.natAbs < 2 ^ 63 then some n else none
  | .text s => int? s
  | .bytes data => do int? (← Encoding.utf8.decode? data)
  | _ => none

/-! ### Rows -/

/-- Reads a value as a name. -/
def nameField? : Value → Option String
  | .text s => some s
  | .bytes data => Encoding.utf8.decode? data
  | _ => none

/-- The text of a value, if it has one. -/
def textField? (v : Value) : Option String := v.display.toOption

/-- Reads a value as a default. -/
def defaultField? : Value → Option (Option String)
  | .null => some none
  | v => (textField? v).map some

/-- Reads a value as a declared type. -/
def declaredField? : Value → Option String
  | .null => some ""
  | v => textField? v

/-- Reads the value under a key, if there is one. -/
def optional? {α : Type} (entries : List (String × Value)) (key : String) (absent : α)
    (read : Value → Option α) : Option α :=
  match Keyed.value? key entries with
  | none => some absent
  | some v => read v

/-- Reads a row. -/
def ofValue? : Value → Option ColumnRow
  | .map entries => do
    return {
      cid := ← wholeField? (← Keyed.value? "cid" entries)
      name := ← nameField? (← Keyed.value? "name" entries)
      declared := ← optional? entries "type" "" declaredField?
      notNull := ← optional? entries "notnull" 0 wholeField?
      defaultSql := ← optional? entries "dflt_value" none defaultField?
      primaryKey := ← optional? entries "pk" 0 wholeField? }
  | _ => none

/-- Reads the rows of a listing, all of them or none. -/
def listing? : Value → Option (List ColumnRow)
  | .list rows => rows.mapM ofValue?
  | _ => none

/-- The column that a row describes. -/
def column (row : ColumnRow) : Except Fault Column := do
  let declaration ← Declaration.read row.declared
  return ⟨row.cid, row.name, declaration.base, declaration.size, row.defaultSql,
    row.notNull != 0, row.primaryKey != 0⟩

end ColumnRow

end RowShell
