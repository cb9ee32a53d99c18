/-
Dates and times in ISO 8601 form.

Written form: `2024-01-02`, a separator, `03:04:05`, six digits of fraction when there
are microseconds, and the offset as `+HH:MM` with seconds and fraction only as needed.

The reader takes more.  A date is a calendar date or a week date, with hyphens or
without; any one character separates it from the time; the time has hours, or hours
and minutes, or all three, with colons or without, and a fraction of any length after
a point or comma, of which six digits count.  The offset is `Z` or a sign and a time.
Before an offset one further ASCII character may follow the last full field of the
time, and anything may follow six digits of a fraction.  An offset of less than a
second is read as none.  A null character ends the text wherever the text may end.
-/
import RowShell.Time.Timestamp
import RowShell.Number.Numeral

namespace RowShell.Iso

open Text

/-! ### Writing -/

/-- The digits of a number, with zeros in front up to a width. -/
def padded (width n : Nat) : List Char :=
  let digits := Numeral.ofNat n
  List.replicate (width - digits.length) '0' ++ digits

def dateText (d : Date) : List Char :=
  padded 4 d.year ++ '-' :: padded 2 d.month ++ '-' :: padded 2 d.day

/-- A fraction of a second, unless it is zero. -/
def fractionText (micros : Nat) : List Char :=
  if micros = 0 then [] else '.' :: padded 6 micros

def timeText (t : TimeOfDay) : List Char :=
  padded 2 t.hour ++ ':' :: padded 2 t.minute ++ ':' :: padded 2 t.second ++
    fractionText t.micro

/-- The sign, hours and minutes of an offset, and its seconds and fraction if there are
any. -/
def offsetText (offset : Offset) : List Char :=
  let micros := offset.micros.natAbs
  let seconds := micros / 1000000
  (if offset.micros < 0 then '-' else '+') ::
    padded 2 (seconds / 3600) ++ ':' :: padded 2 (seconds / 60 % 60) ++
      if micros % 60000000 = 0 then []
      else ':' :: padded 2 (seconds % 60) ++ fractionText (micros % 1000000)

def timestampText (separator : Char) (t : Timestamp) : List Char :=
  dateText t.date ++ separator :: timeText t.time ++
    match t.offset with
    | none => []
    | some offset => offsetText offset

/-! ### Reading a date -/

/-- A number of exactly `count` ASCII digits, and what follows it. -/
def number? (count : Nat) (cs : List Char) : Option (Nat × List Char) :=
  let digits := cs.take count
  if digits.length = count ∧ digits.all isAsciiDigit then
    some (Numeral.value digits, cs.drop count)
  else none

/-- Drops the hyphen before a field of a date that is written with hyphens. -/
def field? (hyphens : Bool) (cs : List Char) : Option (List Char) :=
  if hyphens then
    match cs with
    | '-' :: rest => some rest
    | _ => none
  else some cs

/-- The length of the date at the front of a text.  After a week, a hyphen before a
digit that is followed by another one separates the time. -/
def dateLength? (cs : List Char) : Option Nat :=
  if cs.length = 7 then some 7
  else if cs[4]? = some '-' then
    if cs[5]? = some 'W' then
      if cs[8]? = some '-' then
        if cs.length = 9 then none
        else if cs[10]?.any isAsciiDigit then some 8 else some 10
      else some 8
    else some 10
  else if cs[4]? = some 'W' then
    let digits := ((cs.drop 7).takeWhile isAsciiDigit).length
    if digits < 2 then some (7 + digits) else if digits % 2 = 1 then some 7 else some 8
  else some 8

/-- The day of the week that ends a week date; without one it is the first. -/
def weekday? (hyphens : Bool) (cs : List Char) : Option Nat :=
  if cs.isEmpty then some 1
  else do
    let (day, rest) ← number? 1 (← field? hyphens cs)
    if rest.isEmpty then some day else none

/-- Reads a whole text as a date. -/
def date? (cs : List Char) : Option Date := do
  let (year, rest) ← number? 4 cs
  let hyphens := rest.head? == some '-'
  let rest := if hyphens then rest.drop 1 else rest
  match rest with
  | 'W' :: rest =>
    let (week, rest) ← number? 2 rest
    Date.ofWeek? year week (← weekday? hyphens rest)
  | rest =>
    let (month, rest) ← number? 2 rest
    let (day, rest) ← number? 2 (← field? hyphens rest)
    if rest.isEmpty then Date.of? year month day else none

/-! ### Reading a time -/

/-- A null character ends a text as its last character does. -/
def atEnd (cs : List Char) : Bool := cs.head?.all (· == '\x00')

/-- The fields of a time as written, and whether nothing followed them. -/
structure Clock where
  fields : List Nat
  micro : Nat
  complete : Bool

/-- A fraction of a second in microseconds; digits after the sixth are dropped. -/
def fraction? (cs : List Char) : Option Clock := do
  let count := min 6 cs.length
  let (n, rest) ← number? count cs
  return ⟨[], n * 10 ^ (6 - count), atEnd (rest.dropWhile isAsciiDigit)⟩

/-- Reads up to `more` further fields of two digits and then a fraction.  Whether colons
stand between the fields is settled after the first one. -/
def clock? : Nat → Option Bool → List Char → Option Clock
  | 0, _, cs => fraction? cs
  | more + 1, colons, cs => do
    let (n, rest) ← number? 2 cs
    let after (read : Option Clock) : Option Clock :=
      read.map fun clock => { clock with fields := n :: clock.fields }
    match rest with
    | [] => some ⟨[n], 0, true⟩
    | [c] => if c.toNat < 0x80 then some ⟨[n], 0, c == '\x00'⟩ else none
    | c :: next =>
      let colons := colons.getD (c == ':')
      if colons && c == ':' then after (clock? more (some colons) next)
      else if c == '.' || c == ',' then after (fraction? next)
      else if colons then none
      else after (clock? more (some colons) rest)

/-- The field at a place, and zero where the time ended before it. -/
def Clock.field (clock : Clock) (place : Nat) : Nat := clock.fields[place]?.getD 0

def Clock.timeOfDay? (clock : Clock) : Option TimeOfDay :=
  TimeOfDay.of? (clock.field 0) (clock.field 1) (clock.field 2) clock.micro

/-- The offset of a clock reading; nothing may follow it. -/
def Clock.offset? (clock : Clock) (negative : Bool) : Option Offset :=
  let seconds := 3600 * clock.field 0 + 60 * clock.field 1 + clock.field 2
  if !clock.complete then none
  else if seconds = 0 then some .utc
  else Offset.of? (Numeral.signed negative (1000000 * seconds + clock.micro))

/-- A character that begins an offset. -/
def beginsOffset (c : Char) : Bool := c == '+' || c == '-' || c == 'Z'

/-- Reads the text of an offset. -/
def offset? : List Char → Option Offset
  | 'Z' :: rest => if atEnd rest then some .utc else none
  | sign :: rest => do (← clock? 3 none rest).offset? (sign == '-')
  | [] => none

/-- Reads a whole text as a time with or without an offset. -/
def timeAndOffset? (cs : List Char) : Option (TimeOfDay × Option Offset) := do
  let clock ← clock? 3 none (cs.takeWhile (!beginsOffset ·))
  match cs.dropWhile (!beginsOffset ·) with
  | [] => if clock.complete then return (← clock.timeOfDay?, none) else none
  | zone => return (← clock.timeOfDay?, some (← offset? zone))

/-- Reads a whole text as a date, alone or with a time. -/
def timestamp? (cs : List Char) : Option Timestamp := do
  let length ← dateLength? cs
  let date ← date? (cs.take length)
  match cs.drop length with
  | [] => return .ofDate date
  | _ :: rest =>
    let (time, offset) ← timeAndOffset? rest
    return ⟨date, time, offset⟩

end RowShell.Iso
