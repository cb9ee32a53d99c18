/-
Timestamps in a column of timestamps.

A literal of such a column is a count of milliseconds.  Comparing literals compares instants where
the count is the instant rounded down, and that is so with every offset of whole seconds.  The
count of a timestamp with another offset takes its seconds from the instant, towards zero, and its
milliseconds from the time as written, so that it can miss the instant on either side.

A timestamp can also be given as text.  The text is read back as the timestamp and has the same
literal, unless the offset is less than a second: such an offset is read as that of UTC.  What the
text does not show is that a timestamp is the second of two which read alike.  The literals agree
all the same, except on the first and on the last day of the calendar, where one of the two
timestamps has a literal and the other has none.
-/
import RowShell.Proofs.Column.Failure
import RowShell.Proofs.Time.Epoch
import RowShell.Proofs.Time.Written
import RowShell.Proofs.Value.Text

namespace RowShell

namespace Column

/-! ### Instants -/

/-- The literal of a timestamp is the numeral of its count. -/
theorem outcome_literal_timestamp {column : Column} (hcategory : column.category = .datetime)
    {t : Timestamp} {millis : Int} (h : t.epochMillis? = some millis) :
    (column.literal (.timestamp t)).outcome = .ok (String.ofList (Numeral.ofInt millis)) := by
  have hne : Value.timestamp t ≠ .null := nofun
  rw [outcome_literal column hne, hcategory]
  show timestampLiteral t = _
  unfold timestampLiteral
  rw [h]
  exact Value.numeral_eq_ok.mpr ⟨Timestamp.not_isLong_epochMillis h, rfl⟩

/-- **With an offset of whole seconds a literal is the instant rounded down to a millisecond, and
such literals are in the order of instants.**  With any other offset the count is not the instant
rounded down throughout the second of a timestamp. -/
theorem literal_timestamp_floor (t : Timestamp) :
    (t.HasWholeOffset ↔ ∀ (micro : Fin 1000000) (millis : Int),
      (t.withMicro micro).epochMillis? = some millis →
        millis = (t.withMicro micro).instant / 1000) ∧
    (t.HasWholeOffset → ∀ millis, t.epochMillis? = some millis → millis = t.instant / 1000 ∧
      (∀ column : Column, column.category = .datetime →
        (column.literal (.timestamp t)).outcome = .ok (String.ofList (Numeral.ofInt millis))) ∧
      ∀ (u : Timestamp) (later : Int), u.HasWholeOffset → u.epochMillis? = some later →
        t.instant ≤ u.instant → millis ≤ later) := by
  refine ⟨t.hasWholeOffset_iff_floor, ?_⟩
  intro hwhole millis h
  have hmillis := Timestamp.eq_of_epochMillis? hwhole h
  refine ⟨hmillis, fun _ hcategory => outcome_literal_timestamp hcategory h, ?_⟩
  intro u later hu hlater hle
  rw [hmillis, Timestamp.eq_of_epochMillis? hu hlater]
  exact Int.ediv_le_ediv (by decide) hle

theorem literal_timestamp_floor_beforeEpoch :
    let column := ofType "seen" "DATETIME" none
    let t : Timestamp :=
      ⟨⟨1970, 1, 1, by decide⟩, ⟨8, 59, 59, 999999, false⟩, some ⟨32430000000, by decide⟩⟩
    let u : Timestamp := ⟨⟨1969, 12, 31, by decide⟩, ⟨23, 59, 30, 0, false⟩, none⟩
    column.category = .datetime ∧ t.HasWholeOffset ∧ u.HasWholeOffset ∧
      t.epochMillis? = some (-30001) ∧ u.epochMillis? = some (-30000) ∧ t.instant ≤ u.instant ∧
      (-30001 : Int) = t.instant / 1000 ∧
      (column.literal (.timestamp t)).outcome = .ok (String.ofList (Numeral.ofInt (-30001))) ∧
      (-30001 : Int) ≤ -30000 := by
  intro column t u
  have hcategory : column.category = .datetime := by decide
  have ht : t.HasWholeOffset := (Timestamp.hasWholeOffset_of_some rfl).mpr (by decide)
  have hu : u.HasWholeOffset := Timestamp.hasWholeOffset_of_none rfl
  have hmillis : t.epochMillis? = some (-30001) := by decide +kernel
  have hlater : u.epochMillis? = some (-30000) := by decide +kernel
  have hle : t.instant ≤ u.instant := by decide +kernel
  obtain ⟨hfloor, hliteral, horder⟩ := (literal_timestamp_floor t).2 ht (-30001) hmillis
  exact ⟨hcategory, ht, hu, hmillis, hlater, hle, hfloor, hliteral column hcategory,
    horder u (-30000) hu hlater hle⟩

/-- With an offset of a second and a half a count is above the instant, and above the count of a
later one. -/
theorem not_literal_timestamp_floor :
    ¬ (∀ (t : Timestamp) (millis : Int), t.epochMillis? = some millis →
      millis = t.instant / 1000) ∧
    ¬ ∀ (t u : Timestamp) (millis later : Int), t.epochMillis? = some millis →
      u.epochMillis? = some later → t.instant ≤ u.instant → millis ≤ later := by
  let t : Timestamp :=
    ⟨⟨1969, 12, 31, by decide⟩, ⟨23, 59, 59, 999999, false⟩, some ⟨1500000, by decide⟩⟩
  let u : Timestamp := ⟨⟨1969, 12, 31, by decide⟩, ⟨23, 59, 58, 600000, false⟩, none⟩
  have hmillis : t.epochMillis? = some (-1001) := by decide +kernel
  have hlater : u.epochMillis? = some (-1400) := by decide +kernel
  have hle : t.instant ≤ u.instant := by decide +kernel
  constructor
  · intro h
    exact absurd (h t (-1001) hmillis) (by decide +kernel)
  · intro h
    exact absurd (h t u (-1001) (-1400) hmillis hlater hle) (by decide)

end Column

/-! ### Texts -/

/-- The texts that stand for a timestamp: its ISO 8601 form, and the text by which it is
displayed. -/
def Timestamp.IsWritten (t : Timestamp) (text : String) : Prop :=
  text = String.ofList (Iso.timestampText 'T' t) ∨ (Value.timestamp t).display = .ok text

theorem Timestamp.IsWritten.read {t : Timestamp} {text : String} (h : t.IsWritten text) :
    (Value.text text).timestamp? = some t.asRead := by
  rcases h with rfl | h
  · exact ofText?_timestampText (.inr rfl) t
  · cases h
    exact ofText?_timestampText (.inl rfl) t

namespace Column

/-- On a column of timestamps a value counts as the timestamp that it is read as. -/
theorem literal_eq_of_timestamp? {column : Column} (hcategory : column.category = .datetime)
    {text : String} {t : Timestamp} (h : (Value.text text).timestamp? = some t) :
    column.literal (.text text) = column.literal (.timestamp t) := by
  unfold literal
  simp only [hcategory, h]
  rfl

/-- **The mark of the second of two times changes the literal** only on the first and on the last
day of the calendar. -/
theorem literal_first_eq_iff {column : Column} (hcategory : column.category = .datetime)
    {t : Timestamp} : column.literal (.timestamp t.first) = column.literal (.timestamp t) ↔
      (t.time.fold = true → ¬ t.IsEarly ∧ ¬ t.IsLate) := by
  have hunwritable : ∀ u : Timestamp, column.Unwritable (.timestamp u) ↔ u.IsUncounted := by
    intro u
    unfold Unwritable
    rw [hcategory]
    rfl
  constructor
  · -- Both literals fail or none does, and on the two days just one of them does.
    intro h hfold
    have hsame : column.Unwritable (.timestamp t.first) ↔ column.Unwritable (.timestamp t) := by
      rw [← fails_literal, ← fails_literal, h]
    rw [hunwritable, hunwritable, Timestamp.isUncounted_first,
      Timestamp.isUncounted_of_fold hfold] at hsame
    have hlate : t.IsEarly → ¬ t.IsLate := Timestamp.IsEarly.not_isLate
    exact ⟨fun hearly => hlate hearly (hsame.mp hearly),
      fun h => hlate (hsame.mpr h) h⟩
  · intro h
    unfold literal
    simp only [hcategory, Value.timestamp?, timestampLiteral, Timestamp.epochMillis?_first h]

/-- **A text is read as the timestamp that it stands for**, its mark left aside, unless the offset is
less than a second: the offset that is read is UTC then.  The literal is the same, unless the mark
makes a difference at the edge of the calendar.  A written date is read as its midnight. -/
theorem literal_of_written {t : Timestamp} {text : String} (htext : t.IsWritten text) :
    ((Value.text text).timestamp? = some t.first ↔ ¬ t.HasSubsecondOffset) ∧
      (t.HasSubsecondOffset →
        (Value.text text).timestamp? = some { t.first with offset := some .utc }) ∧
      (∀ column : Column, column.category = .datetime → ¬ t.HasSubsecondOffset →
        (column.literal (.text text) = column.literal (.timestamp t) ↔
          (t.time.fold = true → ¬ t.IsEarly ∧ ¬ t.IsLate))) ∧
      ∀ date : Date,
        (Value.text (String.ofList (Iso.dateText date))).timestamp? = some (.ofDate date) := by
  have hread := htext.read
  refine ⟨?_, ?_, ?_, Timestamp.ofText?_dateText⟩
  · rw [hread, Option.some_inj]
    exact Timestamp.asRead_eq_first_iff
  · intro hsubsecond
    rw [hread, Timestamp.asRead_of_hasSubsecondOffset hsubsecond]
  · intro column hcategory hsubsecond
    rw [Timestamp.asRead_of_not_hasSubsecondOffset hsubsecond] at hread
    rw [literal_eq_of_timestamp? hcategory hread]
    exact literal_first_eq_iff hcategory

theorem literal_of_written_west :
    let column := ofType "seen" "DATETIME" none
    let t : Timestamp :=
      ⟨⟨2024, 1, 2, by decide⟩, ⟨3, 4, 5, 6, false⟩, some ⟨-3723000004, by decide⟩⟩
    let text := "2024-01-02T03:04:05.000006-01:02:03.000004"
    t.IsWritten text ∧ column.category = .datetime ∧ ¬ t.HasSubsecondOffset ∧
      (Value.text text).timestamp? = some t ∧
      column.literal (.text text) = column.literal (.timestamp t) := by
  intro column t text
  have htext : t.IsWritten text := .inl (by decide +kernel)
  have hcategory : column.category = .datetime := by decide
  have hsubsecond : ¬ t.HasSubsecondOffset := by
    rintro ⟨offset, hoffset, hbrief⟩
    cases hoffset
    exact absurd hbrief (by decide)
  obtain ⟨hread, -, hliteral, -⟩ := literal_of_written htext
  have hfirst : t.time.fold = true → ¬ t.IsEarly ∧ ¬ t.IsLate := nofun
  exact ⟨htext, hcategory, hsubsecond, hread.mpr hsubsecond,
    (hliteral column hcategory hsubsecond).mpr hfirst⟩

/-- Half a second of offset is lost, and with it a second of the literal. -/
theorem not_literal_of_written :
    ¬ (∀ (t : Timestamp) (text : String), t.IsWritten text →
      (Value.text text).timestamp? = some t) ∧
    ¬ ∀ (column : Column) (t : Timestamp) (text : String), column.category = .datetime →
      t.IsWritten text → column.literal (.text text) = column.literal (.timestamp t) := by
  let t : Timestamp := ⟨⟨2024, 1, 2, by decide⟩, ⟨3, 4, 5, 0, false⟩, some ⟨500000, by decide⟩⟩
  have htext : t.IsWritten "2024-01-02T03:04:05+00:00:00.500000" := .inl (by decide +kernel)
  have hread := htext.read
  constructor
  · intro h
    rw [h t _ htext, Option.some_inj] at hread
    exact absurd hread (by decide)
  · intro h
    have heq := h (ofType "seen" "DATETIME" none) t _ (by decide) htext
    rw [literal_eq_of_timestamp? (by decide) hread] at heq
    have hutc : t.asRead.epochMillis? = some 1704164645000 := by decide +kernel
    have hmillis : t.epochMillis? = some 1704164644000 := by decide +kernel
    have houtcome := congrArg Report.outcome heq
    rw [outcome_literal_timestamp (by decide) hutc,
      outcome_literal_timestamp (by decide) hmillis] at houtcome
    exact absurd houtcome (by decide +kernel)

end Column

end RowShell
