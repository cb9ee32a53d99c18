/-
The instants of timestamps.

A timestamp without an offset is its instant: the date is found again from the whole days and
the fields of the time from the rest of a day, so two such timestamps at one instant are the
same, unless one of them is marked as the second of two that read alike.

With an offset the seconds of an instant come from a division of binary64 numbers.  Where the
offset is a whole number of seconds the division leaves no remainder, and a quotient that small
is exact, so nothing is cut off or rounded.
-/
import RowShell.Proofs.Number.Exact
import RowShell.Proofs.Time.Calendar
import RowShell.Time.Timestamp

namespace RowShell

namespace TimeOfDay

theorem seconds_lt (t : TimeOfDay) : t.seconds < 86400 := by
  have hhour := t.hour.isLt
  have hminute := t.minute.isLt
  have hsecond := t.second.isLt
  unfold seconds
  omega

/-- A time of day is known by the microseconds since midnight, but for its mark. -/
theorem eq_of_micros {t u : TimeOfDay} (hfold : t.fold = u.fold)
    (h : 1000000 * t.seconds + t.micro.val = 1000000 * u.seconds + u.micro.val) : t = u := by
  obtain ⟨hour, minute, second, micro, fold⟩ := t
  obtain ⟨hour', minute', second', micro', fold'⟩ := u
  unfold seconds at h
  dsimp only at h hfold
  obtain rfl : micro = micro' := by omega
  obtain rfl : second = second' := by omega
  obtain rfl : minute = minute' := by omega
  obtain rfl : hour = hour' := by omega
  rw [hfold]

end TimeOfDay

namespace Offset

/-- A whole number of seconds. -/
def IsWhole (offset : Offset) : Prop := offset.micros % 1000000 = 0

instance (offset : Offset) : Decidable offset.IsWhole := inferInstanceAs (Decidable (_ = _))

end Offset

namespace Timestamp

/-! ### Timestamps without an offset -/

/-- The timestamp without an offset at an instant, not marked as the second of two. -/
def IsUtc (t : Timestamp) (instant : Int) : Prop :=
  t.offset = none ∧ t.time.fold = false ∧ t.instant = instant

theorem instant_of_none {t : Timestamp} (h : t.offset = none) :
    t.instant = 1000000 * t.writtenSeconds + t.time.micro.val := by
  rw [instant, h]
  exact Int.sub_zero _

theorem IsUtc.unique {t u : Timestamp} {instant : Int} (ht : t.IsUtc instant)
    (hu : u.IsUtc instant) : t = u := by
  obtain ⟨htnone, htfold, ht⟩ := ht
  obtain ⟨hunone, hufold, hu⟩ := hu
  rw [instant_of_none htnone] at ht
  rw [instant_of_none hunone] at hu
  obtain ⟨date, time, offset⟩ := t
  obtain ⟨date', time', offset'⟩ := u
  unfold writtenSeconds at ht hu
  dsimp only at *
  have hseconds := time.seconds_lt
  have hseconds' := time'.seconds_lt
  have hmicro := time.micro.isLt
  have hmicro' := time'.micro.isLt
  obtain rfl : date = date' := Date.days_injective (by omega)
  obtain rfl : time = time' := TimeOfDay.eq_of_micros (htfold.trans hufold.symm) (by omega)
  rw [htnone, hunone]

/-! ### Offsets of whole seconds -/

/-- Without an offset, or with one that is a whole number of seconds. -/
def HasWholeOffset (t : Timestamp) : Prop := ∀ offset, t.offset = some offset → offset.IsWhole

theorem hasWholeOffset_of_none {t : Timestamp} (h : t.offset = none) : t.HasWholeOffset :=
  fun _ hoffset => nomatch h.symm.trans hoffset

theorem hasWholeOffset_of_some {t : Timestamp} {offset : Offset} (h : t.offset = some offset) :
    t.HasWholeOffset ↔ offset.IsWhole := by
  unfold HasWholeOffset
  rw [h]
  simp

theorem natAbs_writtenSeconds_lt (t : Timestamp) : t.writtenSeconds.natAbs < 2 ^ 52 := by
  have hdays := t.date.days_lt
  have hseconds := t.time.seconds_lt
  unfold Date.dayCount at hdays
  unfold writtenSeconds epochDays
  omega

/-- The seconds of an offset without a fraction are subtracted exactly. -/
theorem zonedSeconds_of_isWhole (t : Timestamp) {offset : Offset} (h : offset.IsWhole) :
    t.zonedSeconds offset = t.writtenSeconds - offset.micros / 1000000 := by
  have hwritten := t.natAbs_writtenSeconds_lt
  obtain ⟨hleast, hgreatest⟩ := offset.small
  have hmicros : 1000000 * t.writtenSeconds - offset.micros =
      1000000 * (t.writtenSeconds - offset.micros / 1000000) := by
    unfold Offset.IsWhole at h
    omega
  have hsmall : (t.writtenSeconds - offset.micros / 1000000).natAbs < 2 ^ 53 := by
    unfold microsPerDay at *
    omega
  unfold zonedSeconds
  dsimp only
  rw [hmicros]
  generalize t.writtenSeconds - offset.micros / 1000000 = seconds at *
  have hnegative : decide (1000000 * seconds < 0) = decide (seconds < 0) := by
    rw [decide_eq_decide]
    omega
  rw [hnegative, Int.natAbs_mul, show (1000000 : Int).natAbs = 1000000 from rfl,
    Binary64.trunc?_ofRatio_mul _ (by decide) hsmall, Option.getD_some, Numeral.signed_natAbs]

end Timestamp

end RowShell
