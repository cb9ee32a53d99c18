/-
Counts of milliseconds.

A timestamp has a count of milliseconds unless it is without an offset at the edge of the
calendar: on its first day, or on its last day if it is the second of two that read alike.  The
count is never too long for a numeral: without an offset it is bounded by the calendar, and with
one its seconds are the whole part of a binary64 number.

In the other direction every count from the second day of the calendar to its end is read as
a timestamp without an offset, and that timestamp has the count.
-/
import RowShell.Proofs.Number.Range
import RowShell.Proofs.Time.Instant

namespace RowShell

namespace TimeOfDay

theorem seconds_ofMicros {r : Nat} (h : r < 86400000) :
    (ofMicros (1000 * r)).seconds = r / 1000 := by
  simp only [seconds, ofMicros, Fin.val_ofNat]
  omega

theorem micro_ofMicros (r : Nat) :
    (ofMicros (1000 * r)).micro.val = 1000 * (r % 1000) := by
  simp only [ofMicros, Fin.val_ofNat]
  omega

end TimeOfDay

namespace Timestamp

/-! ### From a timestamp to its count -/

theorem writtenSeconds_lt (t : Timestamp) : t.writtenSeconds.natAbs < 2 ^ 1024 :=
  Nat.lt_trans t.natAbs_writtenSeconds_lt (Nat.pow_lt_pow_right (by decide) (by decide))

theorem zonedSeconds_lt (t : Timestamp) (offset : Offset) :
    (t.zonedSeconds offset).natAbs < 2 ^ 1024 := by
  unfold zonedSeconds
  dsimp only
  generalize Binary64.ofRatio _ _ _ = x
  cases h : x.trunc? with
  | none => exact Nat.two_pow_pos _
  | some n => exact Binary64.trunc?_lt h

theorem not_isLong_millis {seconds : Int} {micros : Nat} (hseconds : seconds.natAbs < 2 ^ 1024)
    (hmicros : micros < 1000000) : ¬ Numeral.IsLong (1000 * seconds + (micros / 1000 : Nat)) := by
  have hpow : (2 : Nat) ^ 1035 = 2048 * 2 ^ 1024 := by rw [← Nat.pow_add 2 11 1024]
  have hpos : 0 < 2 ^ 1024 := Nat.two_pow_pos _
  refine Numeral.not_isLong_of_lt (k := 1035) (by decide) ?_
  rw [hpow]
  generalize 2 ^ 1024 = bound at hseconds hpos
  omega

theorem not_isLong_epochMillis {t : Timestamp} {millis : Int} (h : t.epochMillis? = some millis) :
    ¬ Numeral.IsLong millis := by
  unfold epochMillis? at h
  have hmicros := t.time.micro.isLt
  cases hoffset : t.offset with
  | some offset =>
      rw [hoffset, Option.some_inj] at h
      rw [← h]
      exact not_isLong_millis (t.zonedSeconds_lt offset) hmicros
  | none =>
      rw [hoffset] at h
      by_cases hedge : t.AtEdge
      · simp [hedge] at h
      · simp only [hedge, if_false, Option.some_inj] at h
        rw [← h]
        exact not_isLong_millis t.writtenSeconds_lt hmicros

/-! ### The edge of the calendar -/

/-- The beginning of the second day of the calendar. -/
def secondDay : Timestamp := .ofDate ⟨1, 1, 2, by decide⟩

/-- The beginning of the last day of the calendar. -/
def lastDay : Timestamp := .ofDate ⟨9999, 12, 31, by decide⟩

/-- Before the second day of the calendar. -/
def IsEarly (t : Timestamp) : Prop := t.offset = none ∧ t.instant < secondDay.instant

/-- On the last day of the calendar. -/
def IsLate (t : Timestamp) : Prop := t.offset = none ∧ lastDay.instant ≤ t.instant

/-- A time is too early if it is the first of those that read alike, and too late if it is the
second. -/
def IsUncounted (t : Timestamp) : Prop :=
  t.time.fold = false ∧ t.IsEarly ∨ t.time.fold = true ∧ t.IsLate

theorem isUncounted_first {t : Timestamp} : t.first.IsUncounted ↔ t.IsEarly := by
  constructor
  · intro h
    rcases h with h | h
    · exact h.2
    · cases h.1
  · exact fun h => .inl ⟨rfl, h⟩

theorem isUncounted_of_fold {t : Timestamp} (hfold : t.time.fold = true) :
    t.IsUncounted ↔ t.IsLate := by
  unfold IsUncounted
  simp [hfold]

theorem IsEarly.not_isLate {t : Timestamp} (h : t.IsEarly) : ¬ t.IsLate := by
  intro hlate
  have hdays : secondDay.instant ≤ lastDay.instant := by decide
  exact absurd (Int.lt_of_lt_of_le h.2 hdays) (Int.not_lt.mpr hlate.2)

theorem isEarly_iff {t : Timestamp} : t.IsEarly ↔ t.offset = none ∧ t.date.days = 0 := by
  refine and_congr_right fun hnone => ?_
  have hsecondDay : secondDay.instant = 1000000 * (86400 * (1 - epochDays)) := by decide
  have hseconds := t.time.seconds_lt
  have hmicro := t.time.micro.isLt
  rw [hsecondDay, instant_of_none hnone, writtenSeconds]
  omega

theorem isLate_iff {t : Timestamp} :
    t.IsLate ↔ t.offset = none ∧ t.date.days + 1 = Date.dayCount := by
  refine and_congr_right fun hnone => ?_
  have hlastDay : lastDay.instant = 1000000 * (86400 * (Date.dayCount - 1 - epochDays)) := by decide
  have hdays := t.date.days_lt
  have hseconds := t.time.seconds_lt
  have hmicro := t.time.micro.isLt
  rw [hlastDay, instant_of_none hnone, writtenSeconds]
  omega

theorem isUncounted_iff {t : Timestamp} : t.IsUncounted ↔ t.offset = none ∧ t.AtEdge := by
  unfold IsUncounted AtEdge
  rw [isEarly_iff, isLate_iff]
  cases t.time.fold with
  | false => simp
  | true => simp

/-- **A timestamp has a count unless it is too early or too late.** -/
theorem epochMillis?_eq_none {t : Timestamp} : t.epochMillis? = none ↔ t.IsUncounted := by
  rw [isUncounted_iff]
  unfold epochMillis?
  cases t.offset with
  | some offset => simp
  | none => simp

example : epochMillis? ⟨⟨9999, 12, 31, by decide⟩, ⟨12, 0, 0, 0, true⟩, none⟩ = none := by decide

example : epochMillis? ⟨⟨1, 1, 1, by decide⟩, ⟨0, 0, 0, 0, true⟩, none⟩ =
    some (-62135596800000) := by decide

theorem first_eq_self {t : Timestamp} (h : t.time.fold = false) : t.first = t := by
  obtain ⟨date, ⟨hour, minute, second, micro, fold⟩, offset⟩ := t
  cases h
  rfl

/-- **The mark of the second of two times decides on the count** only on the first and on the last
day of the calendar: without it the one day has no count, with it the other. -/
theorem epochMillis?_first {t : Timestamp} (h : t.time.fold = true → ¬ t.IsEarly ∧ ¬ t.IsLate) :
    t.first.epochMillis? = t.epochMillis? := by
  cases hfold : t.time.fold with
  | false => rw [first_eq_self hfold]
  | true =>
      obtain ⟨hearly, hlate⟩ := h hfold
      rw [isEarly_iff] at hearly
      rw [isLate_iff] at hlate
      have hfirst : t.first.AtEdge ↔ t.date.days = 0 := Iff.rfl
      have hedge : t.AtEdge ↔ t.date.days + 1 = Date.dayCount := by
        unfold AtEdge
        rw [if_pos hfold]
      unfold epochMillis?
      cases hoffset : t.offset with
      | some offset => simp only [first, hoffset]; rfl
      | none =>
          rw [and_iff_right hoffset] at hearly hlate
          simp only [hfirst, hedge, hearly, hlate, if_false]
          simp only [first, hoffset]
          rfl

/-! ### The count and the instant

The count is put together from two parts, the seconds of the instant and the milliseconds of the
time as written.  The second part is that of the instant only where the offset has no fraction of
a second.
-/

/-- **With an offset of whole seconds the count is the instant rounded down.** -/
theorem epochMillis?_of_hasWholeOffset {t : Timestamp} (hwhole : t.HasWholeOffset)
    (hcounted : ¬ t.IsUncounted) : t.epochMillis? = some (t.instant / 1000) := by
  unfold epochMillis? instant
  cases hoffset : t.offset with
  | none =>
      rw [isUncounted_iff, hoffset, and_iff_right rfl] at hcounted
      simp only [hcounted, if_false, Option.some_inj, Option.map_none, Option.getD_none]
      omega
  | some offset =>
      have h := hwhole offset hoffset
      simp only [Option.some_inj, Option.map_some, Option.getD_some]
      rw [t.zonedSeconds_of_isWhole h]
      unfold Offset.IsWhole at h
      omega

theorem eq_of_epochMillis? {t : Timestamp} {millis : Int} (hwhole : t.HasWholeOffset)
    (h : t.epochMillis? = some millis) : millis = t.instant / 1000 := by
  have hcounted : ¬ t.IsUncounted := by
    intro huncounted
    rw [epochMillis?_eq_none.mpr huncounted] at h
    cases h
  rw [epochMillis?_of_hasWholeOffset hwhole hcounted, Option.some_inj] at h
  exact h.symm

/-- The timestamp at another microsecond of its second. -/
def withMicro (t : Timestamp) (micro : Fin 1000000) : Timestamp :=
  { t with time := { t.time with micro } }

/-- **With any other offset the count is not the instant rounded down** throughout a second: it
misses the instant of the whole second or the one 999 microseconds later. -/
theorem hasWholeOffset_iff_floor (t : Timestamp) :
    t.HasWholeOffset ↔ ∀ (micro : Fin 1000000) (millis : Int),
      (t.withMicro micro).epochMillis? = some millis →
        millis = (t.withMicro micro).instant / 1000 := by
  have hsame : ∀ micro, (t.withMicro micro).offset = t.offset := fun _ => rfl
  constructor
  · intro hwhole micro millis h
    exact eq_of_epochMillis? (t := t.withMicro micro) hwhole h
  · intro hfloor offset hoffset
    have hcount : ∀ micro : Fin 1000000, 1000 * t.zonedSeconds offset + (micro.val / 1000 : Nat) =
        (1000000 * t.writtenSeconds + micro.val - offset.micros) / 1000 := by
      intro micro
      have h := hfloor micro
      rw [epochMillis?, instant, hsame, hoffset] at h
      exact h _ rfl
    have hsecond := hcount ⟨0, by decide⟩
    have hlate := hcount ⟨999, by decide⟩
    dsimp only at hsecond hlate
    unfold Offset.IsWhole
    omega

/-! ### From a count to its timestamp -/

/-- The greatest count of milliseconds that is read as a timestamp: the calendar ends with it. -/
def greatestEpochMillis : Int := 253402300799999

/-- A count is read by way of the milliseconds since the first day of the calendar. -/
theorem exists_ofEpochMillis?_eq {millis : Int} (hleast : leastEpochMillis ≤ millis) :
    ∃ since : Nat, millis = since - 86400000 * epochDays ∧
      ofEpochMillis? millis = (Date.ofDays? (since / 86400000)).map fun date =>
        ⟨date, .ofMicros (1000 * (since % 86400000)), none⟩ := by
  obtain ⟨since, hsince⟩ : ∃ since : Nat, millis + 86400000 * (epochDays : Int) = since := by
    refine ⟨_, (Int.toNat_of_nonneg ?_).symm⟩
    unfold leastEpochMillis epochDays at *
    omega
  refine ⟨since, by omega, ?_⟩
  unfold ofEpochMillis?
  rw [if_neg (Int.not_lt.mpr hleast), hsince, Int.toNat_natCast]

theorem isUtc_ofMicros {since : Nat} {date : Date} (hdays : date.days = since / 86400000) :
    IsUtc ⟨date, .ofMicros (1000 * (since % 86400000)), none⟩
      (1000 * ((since : Int) - 86400000 * epochDays)) := by
  have hseconds := TimeOfDay.seconds_ofMicros (Nat.mod_lt since (show 86400000 > 0 by decide))
  have hmicro := TimeOfDay.micro_ofMicros (since % 86400000)
  refine ⟨rfl, rfl, ?_⟩
  rw [instant_of_none rfl, writtenSeconds]
  dsimp only
  rw [hdays, hseconds, hmicro]
  omega

/-- **The counts that are read as a timestamp are those of the calendar**, its first day left
aside. -/
theorem exists_ofEpochMillis?_iff {millis : Int} : (∃ t, ofEpochMillis? millis = some t) ↔
    leastEpochMillis ≤ millis ∧ millis ≤ greatestEpochMillis := by
  by_cases hleast : leastEpochMillis ≤ millis
  · obtain ⟨since, hsince, heq⟩ := exists_ofEpochMillis?_eq hleast
    rw [heq, and_iff_right hleast]
    by_cases hend : since / 86400000 < Date.dayCount
    · obtain ⟨date, hdate, -⟩ := Date.ofDays?_spec hend
      refine iff_of_true ⟨_, congrArg (Option.map _) hdate⟩ ?_
      unfold greatestEpochMillis epochDays Date.dayCount at *
      omega
    · refine iff_of_false ?_ ?_
      · intro h
        obtain ⟨t, ht⟩ := h
        rw [Date.ofDays?_eq_none (Nat.le_of_not_lt hend)] at ht
        cases ht
      · unfold greatestEpochMillis epochDays Date.dayCount at *
        omega
  · refine iff_of_false ?_ fun h => hleast h.1
    intro h
    obtain ⟨t, ht⟩ := h
    rw [ofEpochMillis?, if_pos (Int.not_le.mp hleast)] at ht
    cases ht

/-- **A count is read as the timestamp without an offset at its instant**, the only one there
is. -/
theorem ofEpochMillis?_eq_some {millis : Int} {t : Timestamp} :
    ofEpochMillis? millis = some t ↔ leastEpochMillis ≤ millis ∧ t.IsUtc (1000 * millis) := by
  have hread : ∀ u, ofEpochMillis? millis = some u →
      leastEpochMillis ≤ millis ∧ u.IsUtc (1000 * millis) := by
    intro u hu
    have hleast := (exists_ofEpochMillis?_iff.mp ⟨u, hu⟩).1
    obtain ⟨since, hsince, heq⟩ := exists_ofEpochMillis?_eq hleast
    rw [heq, Option.map_eq_some_iff] at hu
    obtain ⟨date, hdate, rfl⟩ := hu
    rw [hsince]
    exact ⟨by omega, isUtc_ofMicros (Date.ofDays?_eq_some.mp hdate)⟩
  refine ⟨hread t, ?_⟩
  intro h
  obtain ⟨hleast, hnone, hfold, hinstant⟩ := h
  have hgreatest : millis ≤ greatestEpochMillis := by
    have hdays := t.date.days_lt
    have hseconds := t.time.seconds_lt
    have hmicro := t.time.micro.isLt
    rw [instant_of_none hnone] at hinstant
    unfold writtenSeconds at hinstant
    unfold greatestEpochMillis epochDays Date.dayCount at *
    omega
  obtain ⟨u, hu⟩ := exists_ofEpochMillis?_iff.mpr ⟨hleast, hgreatest⟩
  rw [hu, (hread u hu).2.unique ⟨hnone, hfold, hinstant⟩]

theorem epochMillis?_of_ofEpochMillis? {millis : Int} {t : Timestamp}
    (h : ofEpochMillis? millis = some t) : t.offset = none ∧ t.epochMillis? = some millis := by
  obtain ⟨hleast, hnone, hfold, hinstant⟩ := ofEpochMillis?_eq_some.mp h
  refine ⟨hnone, ?_⟩
  have hsecondDay : secondDay.instant = 1000 * leastEpochMillis := by decide
  have hcounted : ¬ t.IsUncounted := by
    intro huncounted
    rcases huncounted with ⟨-, -, hearly⟩ | ⟨hsecond, -⟩
    · rw [hinstant, hsecondDay] at hearly
      omega
    · rw [hfold] at hsecond
      cases hsecond
  rw [epochMillis?_of_hasWholeOffset (hasWholeOffset_of_none hnone) hcounted, hinstant,
    Int.mul_ediv_cancel_left _ (by decide)]

/-- **A count of milliseconds within the calendar is read as a timestamp with that count.** -/
theorem ofEpochMillis?_spec {millis : Int} (hleast : leastEpochMillis ≤ millis)
    (hgreatest : millis ≤ greatestEpochMillis) :
    ∃ t, ofEpochMillis? millis = some t ∧ t.offset = none ∧ t.epochMillis? = some millis := by
  obtain ⟨t, ht⟩ := exists_ofEpochMillis?_iff.mpr ⟨hleast, hgreatest⟩
  exact ⟨t, ht, epochMillis?_of_ofEpochMillis? ht⟩

/-! ### There and back -/

end Timestamp

end RowShell
