/-
Dates with a time of day.

A timestamp is a date, a time of day to the microsecond, and, if it is tied to a zone,
that zone's offset from UTC, which is less than a day.  A timestamp without an offset
is read in UTC.  The instant of a timestamp is the number of microseconds from the
epoch, 1970-01-01T00:00:00 UTC.

Where a clock is set back some times of day come twice, and a time can be marked as the
second of two.  UTC has no such times, so the mark does not change what a timestamp
stands for.  It decides on which side of the timestamp a change of the clock is looked
for, and at the two ends of the calendar one of the sides is missing.

Storage counts whole milliseconds from the epoch.  `ofEpochMillis?` reads such a count
as a timestamp without an offset; `epochMillis?` writes one.
-/
import RowShell.Time.Date
import RowShell.Number.Binary64

namespace RowShell

structure TimeOfDay where
  hour : Fin 24
  minute : Fin 60
  second : Fin 60
  micro : Fin 1000000
  /-- Whether it is the second of two times that read alike. -/
  fold : Bool
  deriving DecidableEq

namespace TimeOfDay

def midnight : TimeOfDay := ⟨0, 0, 0, 0, false⟩

def of? (hour minute second micro : Nat) : Option TimeOfDay :=
  if h : hour < 24 ∧ minute < 60 ∧ second < 60 ∧ micro < 1000000 then
    some ⟨⟨hour, h.1⟩, ⟨minute, h.2.1⟩, ⟨second, h.2.2.1⟩, ⟨micro, h.2.2.2⟩, false⟩
  else none

/-- The first of the times of day that read like a time. -/
def first (t : TimeOfDay) : TimeOfDay := { t with fold := false }

/-- The whole seconds since midnight. -/
def seconds (t : TimeOfDay) : Nat := 3600 * t.hour + 60 * t.minute + t.second

/-- The time of day that many microseconds after midnight. -/
def ofMicros (n : Nat) : TimeOfDay where
  hour := Fin.ofNat 24 (n / 3600000000)
  minute := Fin.ofNat 60 (n / 60000000)
  second := Fin.ofNat 60 (n / 1000000)
  micro := Fin.ofNat 1000000 n
  fold := false

end TimeOfDay

/-- The microseconds of a day. -/
def microsPerDay : Int := 86400000000

/-- A zone's distance from UTC, in microseconds east. -/
structure Offset where
  micros : Int
  small : -microsPerDay < micros ∧ micros < microsPerDay
  deriving DecidableEq

namespace Offset

def of? (micros : Int) : Option Offset :=
  if h : -microsPerDay < micros ∧ micros < microsPerDay then some ⟨micros, h⟩ else none

def utc : Offset := ⟨0, by decide⟩

end Offset

structure Timestamp where
  date : Date
  time : TimeOfDay
  offset : Option Offset
  deriving DecidableEq

namespace Timestamp

/-- Midnight of a date, without an offset. -/
def ofDate (d : Date) : Timestamp := ⟨d, .midnight, none⟩

/-- The first of the timestamps that read like a timestamp. -/
def first (t : Timestamp) : Timestamp := { t with time := t.time.first }

/-- The days from the first day of the calendar to the epoch. -/
def epochDays : Nat := 719162

/-- The whole seconds from the epoch to the date and time as written. -/
def writtenSeconds (t : Timestamp) : Int :=
  86400 * ((t.date.days : Int) - epochDays) + t.time.seconds

/-- The microseconds from the epoch to the instant. -/
def instant (t : Timestamp) : Int :=
  1000000 * t.writtenSeconds + t.time.micro.val - (t.offset.map Offset.micros).getD 0

/-- The whole seconds that stand for the instant of a timestamp with an offset, its
own microseconds left aside.  The count of seconds is a binary64 number, and its
fraction is cut off. -/
def zonedSeconds (t : Timestamp) (offset : Offset) : Int :=
  let micros := 1000000 * t.writtenSeconds - offset.micros
  ((Binary64.ofRatio (micros < 0) micros.natAbs 1000000).trunc?).getD 0

/-- The time a day before is not in the calendar, or for the second of two times the time a
day after. -/
def AtEdge (t : Timestamp) : Prop :=
  if t.time.fold then t.date.days + 1 = Date.dayCount else t.date.days = 0

instance (t : Timestamp) : Decidable t.AtEdge :=
  inferInstanceAs (Decidable (if t.time.fold then _ else _))

/-- The milliseconds from the epoch that stand for a timestamp.  A timestamp without an
offset at the edge of the calendar has none. -/
def epochMillis? (t : Timestamp) : Option Int :=
  let millis : Int := (t.time.micro.val / 1000 : Nat)
  match t.offset with
  | some offset => some (1000 * t.zonedSeconds offset + millis)
  | none => if t.AtEdge then none else some (1000 * t.writtenSeconds + millis)

/-- The least count of milliseconds that is read as a timestamp: the second day of the
calendar begins there. -/
def leastEpochMillis : Int := -62135510400000

/-- The timestamp of a count of milliseconds from the epoch, without an offset. -/
def ofEpochMillis? (millis : Int) : Option Timestamp :=
  if millis < leastEpochMillis then none
  else
    let sinceStart := (millis + 86400000 * (epochDays : Int)).toNat
    (Date.ofDays? (sinceStart / 86400000)).map fun date =>
      ⟨date, .ofMicros (1000 * (sinceStart % 86400000)), none⟩

end Timestamp

end RowShell
