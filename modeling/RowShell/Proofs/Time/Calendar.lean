/-
The calendar counts every day once.

A date is found from the count of days before it in two steps: the year, by cycles of 400,
100 and 4 years, and then the month, by a search through the months of that year.  Here each
step is shown to find a place that gives the count back, and so is the whole: every count of
days up to the end of the year 9999 is that of a date.

The last day of a cycle of 400 or of 4 years is the one for which the count of shorter cycles
is full.  It is the only day on which the quotients of the year are out of range, so the step
for years has one case for each of these two and one for all other days.

No other date has the same count.  Years follow one another without overlap, and so do the
months of a year, which is all that `place_unique` needs to know of either.
-/
import Mathlib.Data.List.Range
import RowShell.Time.Date

namespace RowShell.Date

/-! ### Years -/

/-- The number of days of a year. -/
def daysInYear (year : Nat) : Nat := if isLeapYear year then 366 else 365

theorem isLeapYear_iff {year : Nat} : isLeapYear year = true ↔
    year % 4 = 0 ∧ (year % 100 ≠ 0 ∨ year % 400 = 0) := by
  simp [isLeapYear]

/-- A year by its place in the cycles of 400, 100 and 4 years, and the days before it. -/
theorem daysBeforeYear_cycles (cycles centuries fours years : Nat) (hcenturies : centuries ≤ 3)
    (hfours : fours ≤ 24) (hyears : years ≤ 3) :
    daysBeforeYear (400 * cycles + 100 * centuries + 4 * fours + years + 1) =
      146097 * cycles + 36524 * centuries + 1461 * fours + 365 * years := by
  have hfour : (400 * cycles + 100 * centuries + 4 * fours + years) / 4 =
      100 * cycles + 25 * centuries + fours := by omega
  have hhundred : (400 * cycles + 100 * centuries + 4 * fours + years) / 100 =
      4 * cycles + centuries := by omega
  have hcycle : (400 * cycles + 100 * centuries + 4 * fours + years) / 400 = cycles := by omega
  rw [daysBeforeYear, Nat.add_sub_cancel, hfour, hhundred, hcycle]
  omega

/-- The last year of four is a leap year unless it ends a century that does not end a cycle. -/
theorem daysInYear_cycles (cycles centuries fours : Nat) (hfours : fours ≤ 24)
    (h : fours ≤ 23 ∨ centuries = 3) :
    daysInYear (400 * cycles + 100 * centuries + 4 * fours + 3 + 1) = 366 := by
  rw [daysInYear, if_pos]
  rw [isLeapYear_iff]
  omega

/-- **A day falls into the year that is computed for it.** -/
theorem yearOfDays_spec (n : Nat) : 1 ≤ (yearOfDays n).1 ∧
    (yearOfDays n).2 < daysInYear (yearOfDays n).1 ∧
    daysBeforeYear (yearOfDays n).1 + (yearOfDays n).2 = n := by
  unfold yearOfDays
  dsimp only
  obtain ⟨h400, hin400⟩ : 146097 * (n / 146097) + n % 146097 = n ∧ n % 146097 < 146097 := by omega
  generalize n % 146097 = in400 at *
  generalize n / 146097 = cycles at *
  obtain ⟨h100, hin100⟩ : 36524 * (in400 / 36524) + in400 % 36524 = in400 ∧
    in400 % 36524 < 36524 := by omega
  generalize in400 % 36524 = in100 at *
  generalize in400 / 36524 = centuries at *
  obtain ⟨h4, hin4⟩ : 1461 * (in100 / 1461) + in100 % 1461 = in100 ∧ in100 % 1461 < 1461 := by omega
  generalize in100 % 1461 = in4 at *
  generalize in100 / 1461 = fours at *
  obtain ⟨h1, hinYear⟩ : 365 * (in4 / 365) + in4 % 365 = in4 ∧ in4 % 365 < 365 := by omega
  generalize in4 % 365 = inYear at *
  generalize in4 / 365 = years at *
  by_cases hcenturies : centuries = 4
  · -- The last day of a cycle of 400 years.
    have hdays := daysBeforeYear_cycles cycles 3 24 3 (by omega) (by omega) (by omega)
    have hleap := daysInYear_cycles cycles 3 24 (by omega) (by omega)
    have hyear : 400 * cycles + 100 * centuries + 4 * fours + years =
      400 * cycles + 100 * 3 + 4 * 24 + 3 + 1 := by omega
    rw [if_pos (.inl hcenturies), hyear]
    dsimp only
    exact ⟨by omega, by omega, by omega⟩
  · by_cases hyears : years = 4
    · -- The last day of a cycle of 4 years.
      have hdays := daysBeforeYear_cycles cycles centuries fours 3 (by omega) (by omega) (by omega)
      have hleap := daysInYear_cycles cycles centuries fours (by omega) (by omega)
      have hyear : 400 * cycles + 100 * centuries + 4 * fours + years =
        400 * cycles + 100 * centuries + 4 * fours + 3 + 1 := by omega
      rw [if_pos (.inr hyears), hyear]
      dsimp only
      exact ⟨by omega, by omega, by omega⟩
    · have hdays := daysBeforeYear_cycles cycles centuries fours years (by omega) (by omega)
        (by omega)
      have hlength : 365 ≤ daysInYear (400 * cycles + 100 * centuries + 4 * fours + years + 1) := by
        unfold daysInYear
        split <;> omega
      rw [if_neg (by omega)]
      dsimp only
      exact ⟨by omega, by omega, by omega⟩

/-! ### Months -/

theorem daysBeforeMonth_one (year : Nat) : daysBeforeMonth year 1 = 0 := rfl

theorem daysBeforeMonth_succ (year : Nat) {month : Nat} (h : 1 ≤ month) :
    daysBeforeMonth year (month + 1) = daysBeforeMonth year month + daysInMonth year month := by
  obtain ⟨i, rfl⟩ := Nat.exists_eq_add_of_le' h
  simp [daysBeforeMonth, List.range_succ]

/-- The months of a year make up the year. -/
theorem daysBeforeMonth_end (year : Nat) : daysBeforeMonth year 13 = daysInYear year := by
  unfold daysInYear
  by_cases h : isLeapYear year = true
  · simp [daysBeforeMonth, List.range_succ, daysInMonth, h]
  · simp [daysBeforeMonth, List.range_succ, daysInMonth, h]

/-- **The search for a month ends at the month of the day**, if the day is before the end of
the last month that is searched. -/
theorem monthAndDay_spec (year : Nat) : ∀ more month n, 1 ≤ month →
    daysBeforeMonth year month + n < daysBeforeMonth year (month + more + 1) →
    ∃ m d, monthAndDay year more month n = (m, d) ∧ month ≤ m ∧ m ≤ month + more ∧ 1 ≤ d ∧
      d ≤ daysInMonth year m ∧
      daysBeforeMonth year m + (d - 1) = daysBeforeMonth year month + n := by
  intro more
  induction more with
  | zero =>
      intro month n hmonth hn
      rw [Nat.add_zero, daysBeforeMonth_succ year hmonth] at hn
      exact ⟨month, n + 1, rfl, by omega, by omega, by omega, by omega, by omega⟩
  | succ more ih =>
      intro month n hmonth hn
      rw [monthAndDay]
      by_cases hlt : n < daysInMonth year month
      · rw [if_pos hlt]
        exact ⟨month, n + 1, rfl, by omega, by omega, by omega, by omega, by omega⟩
      · rw [if_neg hlt]
        have hsucc := daysBeforeMonth_succ year hmonth
        rw [show month + (more + 1) + 1 = month + 1 + more + 1 by omega] at hn
        obtain ⟨m, d, heq, hle, hge, hd, hdays, hsum⟩ := ih (month + 1) (n - daysInMonth year month)
          (by omega) (by omega)
        exact ⟨m, d, heq, by omega, by omega, hd, hdays, by omega⟩

/-! ### Places -/

/-- A count falls into one place only, if places follow one another without overlap. -/
theorem place_unique {start length : Nat → Nat}
    (hnext : ∀ i j, 1 ≤ i → i < j → start i + length i ≤ start j) {i j a b : Nat} (hi : 1 ≤ i)
    (hj : 1 ≤ j) (ha : a < length i) (hb : b < length j) (heq : start i + a = start j + b) :
    i = j := by
  rcases Nat.lt_trichotomy i j with hlt | hsame | hgt
  · have hle := hnext i j hi hlt
    omega
  · exact hsame
  · have hle := hnext j i hj hgt
    omega

theorem daysBeforeYear_succ {year : Nat} (h : 1 ≤ year) :
    daysBeforeYear (year + 1) = daysBeforeYear year + daysInYear year := by
  obtain ⟨past, rfl⟩ := Nat.exists_eq_add_of_le' h
  -- Each quotient grows by one with the years that its cycle ends with.
  have hgrow : ∀ cycle, (past + 1) / cycle = past / cycle + if cycle ∣ past + 1 then 1 else 0 :=
    fun cycle => Nat.succ_div
  have hcenturies : past / 100 ≤ past / 4 := Nat.div_le_div_left (by decide) (by decide)
  unfold daysBeforeYear daysInYear
  simp only [Nat.add_sub_cancel, hgrow, Nat.dvd_iff_mod_eq_zero, isLeapYear_iff]
  generalize past / 4 = fours at *
  generalize past / 100 = centuries at *
  generalize past / 400 = cycles at *
  split_ifs <;> omega

/-- A year is over before any later one begins. -/
theorem daysBeforeYear_add_le {year later : Nat} (hyear : 1 ≤ year) (h : year < later) :
    daysBeforeYear year + daysInYear year ≤ daysBeforeYear later := by
  induction later, h using Nat.le_induction with
  | base => exact Nat.le_of_eq (daysBeforeYear_succ hyear).symm
  | succ later hle ih =>
      rw [daysBeforeYear_succ (Nat.le_trans hyear (Nat.le_of_succ_le hle))]
      omega

/-- A month is over before any later one begins. -/
theorem daysBeforeMonth_add_le (year : Nat) {month later : Nat} (hmonth : 1 ≤ month)
    (h : month < later) :
    daysBeforeMonth year month + daysInMonth year month ≤ daysBeforeMonth year later := by
  induction later, h using Nat.le_induction with
  | base => exact Nat.le_of_eq (daysBeforeMonth_succ year hmonth).symm
  | succ later hle ih =>
      rw [daysBeforeMonth_succ year (Nat.le_trans hmonth (Nat.le_of_succ_le hle))]
      omega

/-- A day of a month is a day of its year. -/
theorem daysBeforeMonth_add_lt {year month day : Nat} (hmonth : 1 ≤ month) (hmonth' : month ≤ 12)
    (hday : 1 ≤ day) (hday' : day ≤ daysInMonth year month) :
    daysBeforeMonth year month + (day - 1) < daysInYear year := by
  have hend := daysBeforeMonth_add_le year hmonth (Nat.lt_succ_of_le hmonth')
  rw [daysBeforeMonth_end] at hend
  omega

/-! ### Days -/

/-- A year of the calendar is over before the calendar is. -/
theorem daysBeforeYear_add_le_dayCount {year : Nat} (hyear : 1 ≤ year) (hyear' : year ≤ 9999) :
    daysBeforeYear year + daysInYear year ≤ dayCount := by
  have hlast : daysBeforeYear 10000 = dayCount := by decide
  rw [← hlast]
  exact daysBeforeYear_add_le hyear (show year < 10000 by omega)

theorem days_lt (d : Date) : d.days < dayCount := by
  obtain ⟨hyear, hyear', hmonth, hmonth', hday, hday'⟩ := d.valid
  have hinYear := daysBeforeMonth_add_lt hmonth hmonth' hday hday'
  have hend := daysBeforeYear_add_le_dayCount hyear hyear'
  unfold days
  omega

/-- **Two dates with the same count are the same.** -/
theorem days_injective {d e : Date} (h : d.days = e.days) : d = e := by
  obtain ⟨year, month, day, hd⟩ := d
  obtain ⟨year', month', day', he⟩ := e
  unfold days at h
  dsimp only at h
  obtain ⟨hyear, -, hmonth, hmonth', hday, hday'⟩ := hd
  obtain ⟨hyearE, -, hmonthE, hmonthE', hdayE, hdayE'⟩ := he
  obtain rfl : year = year' :=
    place_unique (fun _ _ => daysBeforeYear_add_le) hyear hyearE
      (daysBeforeMonth_add_lt hmonth hmonth' hday hday')
      (daysBeforeMonth_add_lt hmonthE hmonthE' hdayE hdayE') (by omega)
  obtain rfl : month = month' :=
    place_unique (fun _ _ => daysBeforeMonth_add_le year) hmonth hmonthE
      (show day - 1 < daysInMonth year month by omega)
      (show day' - 1 < daysInMonth year month' by omega) (by omega)
  obtain rfl : day = day' := by omega
  rfl

/-- **Every day of the calendar is a date.** -/
theorem ofDays?_spec {n : Nat} (hn : n < dayCount) : ∃ d, ofDays? n = some d ∧ d.days = n := by
  obtain ⟨hyear, hinYear, hsum⟩ := yearOfDays_spec n
  unfold ofDays?
  generalize yearOfDays n = place at *
  obtain ⟨year, inYear⟩ := place
  dsimp only at *
  obtain ⟨m, d, heq, hm, hm', hd, hd', hdays⟩ := monthAndDay_spec year 11 1 inYear (by omega) (by
    rw [daysBeforeMonth_one, daysBeforeMonth_end]
    omega)
  rw [heq]
  dsimp only
  have hvalid : IsDate year m d := by
    refine ⟨hyear, ?_, hm, by omega, hd, hd'⟩
    unfold daysBeforeYear dayCount at *
    dsimp only at *
    omega
  refine ⟨⟨year, m, d, hvalid⟩, dif_pos hvalid, ?_⟩
  rw [daysBeforeMonth_one] at hdays
  unfold days
  dsimp only
  omega

/-- Days after the end of the calendar are not. -/
theorem ofDays?_eq_none {n : Nat} (hn : dayCount ≤ n) : ofDays? n = none := by
  obtain ⟨hyear, hinYear, hsum⟩ := yearOfDays_spec n
  unfold ofDays?
  generalize yearOfDays n = place at *
  obtain ⟨year, inYear⟩ := place
  dsimp only at *
  refine dif_neg ?_
  intro hvalid
  have hend := daysBeforeYear_add_le_dayCount hyear hvalid.2.1
  omega

/-- **The count of a date finds the date.** -/
theorem ofDays?_eq_some {n : Nat} {d : Date} : ofDays? n = some d ↔ d.days = n := by
  constructor
  · intro h
    by_cases hn : n < dayCount
    · obtain ⟨e, he, hdays⟩ := ofDays?_spec hn
      rw [h, Option.some_inj] at he
      rw [he, hdays]
    · rw [ofDays?_eq_none (Nat.le_of_not_lt hn)] at h
      cases h
  · intro h
    subst h
    obtain ⟨e, he, hdays⟩ := ofDays?_spec d.days_lt
    rw [he, days_injective hdays]

end RowShell.Date
