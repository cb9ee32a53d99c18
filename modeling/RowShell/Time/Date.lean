/-
Calendar dates.

Dates are those of the proleptic Gregorian calendar in the years 1 to 9999; the type
holds no others.  `days` counts the days since the first of them, and `ofDays?` is its
inverse.  The first day is a Monday, so the day of the week is the count modulo seven.
-/

namespace RowShell

-- Sums begin with the zero of the naturals, also where a library offers one for every monoid.
attribute [local instance (2000)] Zero.ofOfNat0

/-- Whether February has 29 days. -/
def isLeapYear (year : Nat) : Bool := year % 4 == 0 && (year % 100 != 0 || year % 400 == 0)

def daysInMonth (year month : Nat) : Nat :=
  if month = 2 then if isLeapYear year then 29 else 28
  else if month = 4 ∨ month = 6 ∨ month = 9 ∨ month = 11 then 30
  else 31

/-- Year, month and day of a day that exists. -/
def IsDate (year month day : Nat) : Prop :=
  1 ≤ year ∧ year ≤ 9999 ∧ 1 ≤ month ∧ month ≤ 12 ∧ 1 ≤ day ∧ day ≤ daysInMonth year month

instance (year month day : Nat) : Decidable (IsDate year month day) :=
  inferInstanceAs (Decidable (_ ∧ _))

structure Date where
  year : Nat
  month : Nat
  day : Nat
  valid : IsDate year month day
  deriving DecidableEq

namespace Date

def of? (year month day : Nat) : Option Date :=
  if h : IsDate year month day then some ⟨year, month, day, h⟩ else none

/-- The days of all years before a year. -/
def daysBeforeYear (year : Nat) : Nat :=
  let past := year - 1
  365 * past + past / 4 - past / 100 + past / 400

/-- The days of the months of a year before a month. -/
def daysBeforeMonth (year month : Nat) : Nat :=
  ((List.range (month - 1)).map fun i => daysInMonth year (i + 1)).sum

/-- The days since the first day of the calendar. -/
def days (d : Date) : Nat := daysBeforeYear d.year + daysBeforeMonth d.year d.month + (d.day - 1)

/-- The number of days of the calendar. -/
def dayCount : Nat := 3652059

/-- The year of a day and the days before it in its year.  A day falls into a cycle of
400 years, then of 100, then of 4, then into a year; the last day of a cycle of 400 or
4 years belongs to its last year, although the count of shorter cycles is full. -/
def yearOfDays (n : Nat) : Nat × Nat :=
  let in400 := n % 146097
  let in100 := in400 % 36524
  let in4 := in100 % 1461
  let year := 400 * (n / 146097) + 100 * (in400 / 36524) + 4 * (in100 / 1461) + in4 / 365
  if in400 / 36524 = 4 ∨ in4 / 365 = 4 then (year, 365) else (year + 1, in4 % 365)

/-- The month and day of the month of a day of a year, searched from `month` on through
`more` further months. -/
def monthAndDay (year : Nat) : Nat → Nat → Nat → Nat × Nat
  | 0, month, n => (month, n + 1)
  | more + 1, month, n =>
    if n < daysInMonth year month then (month, n + 1)
    else monthAndDay year more (month + 1) (n - daysInMonth year month)

/-- The date that many days after the first day of the calendar. -/
def ofDays? (n : Nat) : Option Date :=
  let (year, inYear) := yearOfDays n
  let (month, day) := monthAndDay year 11 1 inYear
  of? year month day

/-- The day of the week, Monday being zero. -/
def weekday (n : Nat) : Nat := n % 7

/-- The days before the Monday that begins the first week of a year.  That week is the
one with the year's first Thursday. -/
def firstMonday (year : Nat) : Nat :=
  let first := daysBeforeYear year
  if weekday first ≤ 3 then first - weekday first else first + 7 - weekday first

/-- The number of weeks of a year: 53 when its first day is a Thursday, or a Wednesday
of a leap year. -/
def weeksInYear (year : Nat) : Nat :=
  let first := weekday (daysBeforeYear year)
  if first = 3 ∨ (first = 2 ∧ isLeapYear year) then 53 else 52

/-- The date of a year, week and day of the week, Monday being day one. -/
def ofWeek? (year week day : Nat) : Option Date :=
  if 1 ≤ year ∧ 1 ≤ week ∧ week ≤ weeksInYear year ∧ 1 ≤ day ∧ day ≤ 7 then
    ofDays? (firstMonday year + 7 * (week - 1) + (day - 1))
  else none

end Date

end RowShell
