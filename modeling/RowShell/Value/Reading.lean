/-
Values read as numbers, text, and dates.

These are the ways in which a value of any kind is taken for one of a given kind: as the
number at the front of its text, as stored text, as a whole number, as a timestamp.
-/
import RowShell.Number.Leading
import RowShell.Text.Encoding
import RowShell.Time.Pattern
import RowShell.Value.Display

namespace RowShell

/-- The text of a binary64 number where a shell reads it back: a whole number below
`10 ^ 21` has no fraction. -/
def Binary64.numberText (x : Binary64) : String :=
  match x with
  | .nan => "NaN"
  | .infinity negative => if negative then "-Infinity" else "Infinity"
  | x =>
    match x.toInt? with
    | some n => if n.natAbs < 10 ^ 21 then String.ofList (Numeral.ofInt n) else x.display
    | none => x.display

namespace Value

/-- Whether a value is a number; a Boolean is none. -/
def isNumber : Value → Bool
  | .int _ | .float _ => true
  | _ => false

/-- The text of a number where a shell reads it back, and that of any other value. -/
def numberText : Value → Except Fault String
  | .float x => .ok x.numberText
  | value => value.display

/-- The text of a value that is stored as text. -/
def storedText : Value → Except Fault String
  | .bytes data => .ok (Encoding.utf8.decode data)
  | .bool b => .ok (if b then "1" else "0")
  | value => value.numberText

/-- The binary64 number of an integer. -/
def binary64 (n : Int) : Except Fault Binary64 :=
  (Binary64.ofInt? n).elim (.error .beyondBinary64) .ok

/-- A value as a binary64 number: a number itself, of a list, a map or null none, and of
any other value the number that its text begins with. -/
def leadingFloat? : Value → Except Fault (Option Binary64)
  | .int n => (binary64 n).map some
  | .float x => .ok (some x)
  | .null | .list _ | .map _ => .ok none
  | value => do return Leading.float? (← value.display)

/-- The whole number that a number or a Boolean counts, without its fraction. -/
def whole? : Value → Option Int
  | .bool b => some (if b then 1 else 0)
  | .int n => some n
  | .float x => x.trunc?
  | _ => none

end Value

/-! ### Timestamps -/

namespace Timestamp

open Pattern.Element in
/-- A date, in the form in which slashes stand for hyphens. -/
def datePattern : Pattern :=
  [field .year, character '/', field .month, character '/', field .day]

open Pattern.Element in
/-- Hours and minutes. -/
def minutePattern : Pattern := [field .hour, character ':', field .minute]

open Pattern.Element in
/-- Hours, minutes and seconds. -/
def secondPattern : Pattern := minutePattern ++ [character ':', field .second]

open Pattern.Element in
/-- Hours, minutes, seconds and a fraction. -/
def fractionPattern : Pattern := secondPattern ++ [character '.', field .fraction]

/-- The patterns of dates and times, in the order in which they are tried. -/
def patterns : List Pattern :=
  let after (separator : Pattern.Element) (time : Pattern) : Pattern :=
    datePattern ++ separator :: time
  [after .blanks fractionPattern, after .blanks secondPattern, after .blanks minutePattern,
    after (.character 'T') fractionPattern, after (.character 'T') secondPattern,
    after (.character 'T') minutePattern, datePattern]

/-- Writes slashes for hyphens. -/
def slashed (cs : List Char) : List Char := cs.map fun c => if c == '-' then '/' else c

/-- Reads a text as a timestamp: by a pattern, or else in ISO 8601 form. -/
def ofText? (s : String) : Option Timestamp :=
  let cs := Text.trim s.toList
  (patterns.findSome? fun pattern => pattern.timestamp? (slashed cs)).or (Iso.timestamp? cs)

end Timestamp

namespace Value

/-- A value as a timestamp; a number counts milliseconds from the epoch. -/
def timestamp? : Value → Option Timestamp
  | .timestamp t => some t
  | .date d => some (.ofDate d)
  | .int n => Timestamp.ofEpochMillis? n
  | .float x => x.trunc?.bind Timestamp.ofEpochMillis?
  | .text s => Timestamp.ofText? s
  | _ => none

end Value

end RowShell
