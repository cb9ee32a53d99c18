/-
The text of a value.

`display` is the text that stands for a value by itself, `inspect` the text by which it
is shown inside a list or a map and in the log.  They differ for text, which is quoted
when inspected, and for dates, which are then shown by their fields.  Neither has a text
for a whole number that is too long for a numeral.
-/
import RowShell.Fault
import RowShell.Number.Display
import RowShell.Text.Quoted
import RowShell.Time.Iso
import RowShell.Value.Basic

namespace RowShell

/-- A decimal numeral as a string. -/
private def numeralOf (n : Nat) : String := String.ofList (Numeral.ofNat n)

/-- The parts of a span of time other than zero: days, seconds and microseconds, of which
only the days may be negative. -/
def Offset.spanParts (offset : Offset) : List String :=
  let days := offset.micros.fdiv microsPerDay
  let rest := (offset.micros.fmod microsPerDay).toNat
  let part (name : String) (n : Nat) : List String :=
    if n = 0 then [] else [name ++ "=" ++ numeralOf n]
  (if days = 0 then [] else ["days=" ++ String.ofList (Numeral.ofInt days)]) ++
    part "seconds" (rest / 1000000) ++ part "microseconds" (rest % 1000000)

/-- The fields of an offset as a constructor call. -/
def Offset.inspect (offset : Offset) : String :=
  if offset.micros = 0 then "datetime.timezone.utc"
  else "datetime.timezone(datetime.timedelta(" ++ ", ".intercalate offset.spanParts ++ "))"

def Date.inspect (d : Date) : String :=
  "datetime.date(" ++ ", ".intercalate ([d.year, d.month, d.day].map numeralOf) ++ ")"

/-- The fields of a time of day: seconds and microseconds are left out from the end while
they are zero. -/
def TimeOfDay.shownFields (t : TimeOfDay) : List Nat :=
  [t.hour.val, t.minute.val] ++
    if t.micro.val ≠ 0 then [t.second.val, t.micro.val]
    else if t.second.val ≠ 0 then [t.second.val]
    else []

/-- The fields of a timestamp as a constructor call. -/
def Timestamp.inspect (t : Timestamp) : String :=
  let fields := [t.date.year, t.date.month, t.date.day] ++ t.time.shownFields
  let fold := if t.time.fold then ["fold=1"] else []
  let zone := match t.offset with
    | none => []
    | some offset => ["tzinfo=" ++ offset.inspect]
  "datetime.datetime(" ++ ", ".intercalate (fields.map numeralOf ++ fold ++ zone) ++ ")"

namespace Value

/-- The numeral of an integer. -/
def numeral (n : Int) : Except Fault String :=
  match Numeral.text? n with
  | some s => .ok s
  | none => .error .longNumeral

mutual

/-- The text by which a value is shown inside another one. -/
def inspect : Value → Except Fault String
  | .null => .ok "None"
  | .bool b => .ok (if b then "True" else "False")
  | .int n => numeral n
  | .float x => .ok x.display
  | .text s => .ok (Text.inspect s)
  | .bytes data => .ok (Text.inspectBytes data)
  | .timestamp t => .ok t.inspect
  | .date d => .ok d.inspect
  | .list items => do return "[" ++ ", ".intercalate (← inspectItems items) ++ "]"
  | .map entries => do return "\x7b" ++ ", ".intercalate (← inspectEntries entries) ++ "\x7d"

def inspectItems : List Value → Except Fault (List String)
  | [] => .ok []
  | item :: rest => do
    let shown ← item.inspect
    return shown :: (← inspectItems rest)

def inspectEntries : List (String × Value) → Except Fault (List String)
  | [] => .ok []
  | (key, value) :: rest => do
    let shown ← value.inspect
    return (Text.inspect key ++ ": " ++ shown) :: (← inspectEntries rest)

end

/-- The text that stands for a value. -/
def display : Value → Except Fault String
  | .text s => .ok s
  | .timestamp t => .ok (String.ofList (Iso.timestampText ' ' t))
  | .date d => .ok (String.ofList (Iso.dateText d))
  | value => value.inspect

end Value

end RowShell
