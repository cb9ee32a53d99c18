/-
Dates and times in their written form are read back.

Every field of the form has a fixed number of digits, so a field is read as it was written
whatever follows it, and the form is read field by field.  Only what is left out when it is
zero needs a case of its own: the fraction of a second, and the seconds of an offset.

Two things do not come back.  An offset is read as that of UTC if its whole seconds are zero, so
the fraction of an offset of less than a second is lost.  And no text says that a time is the
second of two that read alike.  `asRead` says what is left.
-/
import RowShell.Proofs.Number.Numeral
import RowShell.Proofs.Time.Calendar
import RowShell.Time.Iso

namespace RowShell

namespace Numeral

theorem value_replicate_append (count : Nat) (digits : List Char) :
    value (List.replicate count '0' ++ digits) = value digits := by
  induction count with
  | zero => rfl
  | succ count ih => exact ih

end Numeral

namespace Date

theorem daysInMonth_le (year month : Nat) : daysInMonth year month ≤ 31 := by
  unfold daysInMonth
  split_ifs <;> omega

end Date

/-- An offset as it is read: without its fraction if it is less than a second. -/
def Offset.asRead (offset : Offset) : Offset :=
  if offset.micros.natAbs < 1000000 then .utc else offset

/-- A timestamp as it is read from its written form. -/
def Timestamp.asRead (t : Timestamp) : Timestamp :=
  { t.first with offset := t.offset.map Offset.asRead }

namespace Iso

open Numeral Text

/-! ### Fields -/

theorem isDigits_padded (width n : Nat) : IsDigits (padded width n) :=
  (isDigits_ofNat n).append_left (Binary64.isAsciiDigit_of_mem_replicate _)

theorem length_padded {w n : Nat} (hw : 0 < w) (h : n < 10 ^ w) : (padded w n).length = w := by
  have hdigits : (ofNat n).length ≤ w := (Nat.length_toDigits_le_iff (by decide) hw).mpr h
  simp only [padded, List.length_append, List.length_replicate]
  omega

theorem value_padded (width n : Nat) : value (padded width n) = n := by
  rw [padded, value_replicate_append, value_ofNat]

/-- **A field is read as it was written**, whatever follows it. -/
theorem number?_padded {w n : Nat} (hw : 0 < w) (h : n < 10 ^ w) (rest : List Char) :
    number? w (padded w n ++ rest) = some (n, rest) := by
  have hlength := length_padded hw h
  have hall : (padded w n).all isAsciiDigit = true :=
    List.all_eq_true.mpr (isDigits_padded w n).2
  unfold number?
  rw [List.take_left' hlength, List.drop_left' hlength, if_pos ⟨hlength, hall⟩, value_padded]

theorem exists_padded_eq_cons (width n : Nat) :
    ∃ c rest, isAsciiDigit c = true ∧ padded width n = c :: rest := by
  have hdigits := isDigits_padded width n
  obtain ⟨c, rest, heq⟩ := List.exists_cons_of_ne_nil hdigits.1
  exact ⟨c, rest, hdigits.2 c (by simp [heq]), heq⟩

/-! ### Dates -/

theorem dateText_eq (d : Date) (rest : List Char) : dateText d ++ rest =
    padded 4 d.year ++ ('-' :: (padded 2 d.month ++ ('-' :: (padded 2 d.day ++ rest)))) := by
  simp [dateText]

theorem length_dateText (d : Date) : (dateText d).length = 10 := by
  obtain ⟨-, hyear, -, hmonth, -, hday⟩ := d.valid
  have hdays := Date.daysInMonth_le d.year d.month
  simp [dateText, length_padded (w := 4) (n := d.year) (by decide) (by omega),
    length_padded (w := 2) (n := d.month) (by decide) (by omega),
    length_padded (w := 2) (n := d.day) (by decide) (by omega)]

/-- A date with hyphens that names no week has ten characters. -/
theorem dateLength?_dateText (d : Date) (rest : List Char) :
    dateLength? (dateText d ++ rest) = some 10 := by
  have hlength : (dateText d ++ rest).length ≠ 7 := by
    rw [List.length_append, length_dateText]
    omega
  have hyear := length_padded (w := 4) (n := d.year) (by decide) (by have := d.valid.2.1; omega)
  obtain ⟨c, more, hc, hmonth⟩ := exists_padded_eq_cons 2 d.month
  have hfourth : (dateText d ++ rest)[4]? = some '-' := by
    rw [dateText_eq, List.getElem?_append_right (by omega), hyear]
    rfl
  have hfifth : (dateText d ++ rest)[5]? ≠ some 'W' := by
    rw [dateText_eq, List.getElem?_append_right (by omega), hyear, hmonth]
    intro h
    cases h
    exact absurd hc (by decide)
  rw [dateLength?, if_neg hlength, if_pos hfourth, if_neg hfifth]

/-- **A date is read as it was written.** -/
theorem date?_dateText (d : Date) : date? (dateText d) = some d := by
  obtain ⟨-, hyear, -, hmonth, -, hday⟩ := d.valid
  have hlast := Date.daysInMonth_le d.year d.month
  have hmonths := number?_padded (w := 2) (n := d.month) (by decide) (by omega)
    ('-' :: (padded 2 d.day ++ []))
  have hdays := number?_padded (w := 2) (n := d.day) (by decide) (by omega) []
  obtain ⟨c, more, hc, hcons⟩ := exists_padded_eq_cons 2 d.month
  rw [hcons, List.cons_append] at hmonths
  rw [← List.append_nil (dateText d), dateText_eq, date?,
    number?_padded (w := 4) (by decide) (by omega), hcons, List.cons_append]
  simp only [Option.bind_eq_bind, Option.bind_some, List.head?_cons, beq_self_eq_true, if_true,
    List.drop_succ_cons, List.drop_zero]
  split
  · next hweek =>
      cases hweek
      exact absurd hc (by decide)
  · rw [hmonths]
    show (number? 2 (padded 2 d.day ++ [])).bind _ = _
    rw [hdays]
    exact dif_pos d.valid

/-! ### Times

The time of day and the offset are both written as two or three fields with colons, the third one
with a fraction, and read by the same reader.
-/

/-- A field before a colon and another field. -/
theorem clock?_colon {more n other : Nat} {colons : Option Bool} (next : List Char)
    (hcolons : colons.getD true = true) (hn : n < 100) :
    clock? (more + 1) colons (padded 2 n ++ ':' :: (padded 2 other ++ next)) =
      (clock? more (some true) (padded 2 other ++ next)).map fun clock =>
        { clock with fields := n :: clock.fields } := by
  obtain ⟨c, rest, -, hcons⟩ := exists_padded_eq_cons 2 other
  rw [hcons, List.cons_append, clock?, number?_padded (by decide) hn]
  cases colons with
  | none => rfl
  | some colons =>
      rw [Option.getD_some] at hcolons
      subst hcolons
      rfl

/-- The last field, with its fraction if the field is that of seconds. -/
theorem clock?_fractionText (more : Nat) {n micros : Nat} (hn : n < 100)
    (hmicros : micros < 1000000) :
    clock? (more + 1) (some true) (padded 2 n ++ fractionText micros) =
      some ⟨[n], micros, true⟩ := by
  rw [clock?, number?_padded (by decide) hn]
  unfold fractionText
  by_cases hzero : micros = 0
  · rw [if_pos hzero, hzero]
    rfl
  · rw [if_neg hzero]
    obtain ⟨c, rest, -, hcons⟩ := exists_padded_eq_cons 6 micros
    have hread := number?_padded (w := 6) (n := micros) (by decide) hmicros []
    have hlength := length_padded (w := 6) (n := micros) (by decide) hmicros
    have hfraction : fraction? (padded 6 micros) = some ⟨[], micros, true⟩ := by
      rw [List.append_nil] at hread
      rw [fraction?, hlength, Nat.min_self, hread]
      show some (Clock.mk [] (micros * 1) true) = _
      rw [Nat.mul_one]
    rw [hcons] at hfraction ⊢
    show (fraction? (c :: rest)).map _ = _
    rw [hfraction]
    rfl

theorem timeText_eq (t : TimeOfDay) (rest : List Char) : timeText t ++ rest =
    padded 2 t.hour ++ (':' :: (padded 2 t.minute ++ (':' :: (padded 2 t.second ++
      (fractionText t.micro ++ rest))))) := by
  simp [timeText]

/-- **A time of day is read as its fields.** -/
theorem clock?_timeText (t : TimeOfDay) : clock? 3 none (timeText t) =
    some ⟨[t.hour.val, t.minute.val, t.second.val], t.micro.val, true⟩ := by
  rw [← List.append_nil (timeText t), timeText_eq, clock?_colon _ rfl (by omega),
    clock?_colon _ rfl (by omega), List.append_nil, clock?_fractionText _ (by omega) t.micro.isLt]
  rfl

theorem timeOfDay?_fields (t : TimeOfDay) :
    (Clock.mk [t.hour.val, t.minute.val, t.second.val] t.micro.val true).timeOfDay? =
      some t.first :=
  dif_pos ⟨t.hour.isLt, t.minute.isLt, t.second.isLt, t.micro.isLt⟩

/-- The fields of an offset give the offset back, unless its whole seconds are zero. -/
theorem offset?_of_fields {offset : Offset} {clock : Clock} (hcomplete : clock.complete = true)
    (hseconds : 3600 * clock.field 0 + 60 * clock.field 1 + clock.field 2 =
      offset.micros.natAbs / 1000000)
    (hmicro : clock.micro = offset.micros.natAbs % 1000000) :
    clock.offset? (offset.micros < 0) = some offset.asRead := by
  unfold Clock.offset? Offset.asRead
  simp only [hcomplete, hseconds, hmicro, Bool.not_true, Bool.false_eq_true, if_false]
  by_cases hbrief : offset.micros.natAbs < 1000000
  · rw [if_pos hbrief, if_pos (Nat.div_eq_of_lt hbrief)]
  · rw [if_neg hbrief, if_neg (by omega), Nat.div_add_mod, signed_natAbs]
    exact dif_pos offset.small

/-- The sign tells on which side of UTC an offset lies. -/
theorem offset?_sign (offset : Offset) (rest : List Char) :
    offset? ((if offset.micros < 0 then '-' else '+') :: rest) =
      (clock? 3 none rest).bind fun clock => clock.offset? (offset.micros < 0) := by
  by_cases hneg : offset.micros < 0
  · rw [if_pos hneg, decide_eq_true hneg]
    rfl
  · rw [if_neg hneg, decide_eq_false hneg]
    rfl

/-- **An offset is read as it was written**, except for the fraction of one of less than a
second. -/
theorem offset?_offsetText (offset : Offset) :
    offset? (offsetText offset) = some offset.asRead := by
  obtain ⟨hleast, hgreatest⟩ := offset.small
  unfold microsPerDay at hleast hgreatest
  unfold offsetText
  dsimp only
  rw [List.cons_append, List.cons_append, offset?_sign, List.append_assoc, List.cons_append,
    clock?_colon _ rfl (by omega)]
  by_cases hwhole : offset.micros.natAbs % 60000000 = 0
  · -- Whole minutes: neither seconds nor a fraction are written.
    have hminute := clock?_fractionText 1
      (show offset.micros.natAbs / 1000000 / 60 % 60 < 100 by omega) (show 0 < 1000000 by decide)
    rw [fractionText, if_pos rfl] at hminute
    rw [if_pos hwhole, hminute, Option.map_some, Option.bind_some]
    refine offset?_of_fields rfl ?_ ?_
    · show 3600 * (offset.micros.natAbs / 1000000 / 3600) +
        60 * (offset.micros.natAbs / 1000000 / 60 % 60) + 0 = _
      omega
    · show 0 = _
      omega
  · rw [if_neg hwhole, List.cons_append, clock?_colon _ rfl (by omega),
      clock?_fractionText _ (by omega) (by omega), Option.map_some, Option.map_some,
      Option.bind_some]
    refine offset?_of_fields rfl ?_ rfl
    show 3600 * (offset.micros.natAbs / 1000000 / 3600) +
      60 * (offset.micros.natAbs / 1000000 / 60 % 60) + offset.micros.natAbs / 1000000 % 60 = _
    omega

/-! ### Timestamps -/

theorem not_beginsOffset_of_isAsciiDigit {c : Char} (h : isAsciiDigit c = true) :
    beginsOffset c = false := by
  have hne : ∀ sign, isAsciiDigit sign = false → c ≠ sign := by
    intro sign hsign heq
    rw [heq, hsign] at h
    cases h
  simp [beginsOffset, hne '+' (by decide), hne '-' (by decide), hne 'Z' (by decide)]

/-- The text of a time holds nothing that an offset begins with. -/
theorem not_beginsOffset_of_mem_timeText (t : TimeOfDay) :
    ∀ c ∈ timeText t, beginsOffset c = false := by
  have hdigits : ∀ width n, ∀ c ∈ padded width n, beginsOffset c = false := fun width n c hc =>
    not_beginsOffset_of_isAsciiDigit ((isDigits_padded width n).2 c hc)
  have hfraction : ∀ c ∈ fractionText t.micro, beginsOffset c = false := by
    unfold fractionText
    split
    · exact fun c hc => nomatch hc
    · exact List.forall_mem_cons.mpr ⟨by decide, hdigits 6 _⟩
  intro c hc
  simp only [timeText, List.mem_append, List.mem_cons] at hc
  rcases hc with ((hc | rfl | hc) | rfl | hc) | hc
  · exact hdigits _ _ c hc
  · decide
  · exact hdigits _ _ c hc
  · decide
  · exact hdigits _ _ c hc
  · exact hfraction c hc

/-- The text of an offset that may be missing. -/
def zoneText : Option Offset → List Char
  | none => []
  | some offset => offsetText offset

theorem timestampText_eq (separator : Char) (t : Timestamp) : timestampText separator t =
    dateText t.date ++ separator :: (timeText t.time ++ zoneText t.offset) := by
  cases h : t.offset <;> simp [timestampText, zoneText, h]

/-- An offset begins with its sign. -/
theorem offsetText_eq_cons (offset : Offset) :
    ∃ rest, offsetText offset = (if offset.micros < 0 then '-' else '+') :: rest := ⟨_, rfl⟩

/-- A time ends where its offset begins. -/
theorem span_timeText (t : TimeOfDay) (offset : Option Offset) :
    (timeText t ++ zoneText offset).takeWhile (!beginsOffset ·) = timeText t ∧
      (timeText t ++ zoneText offset).dropWhile (!beginsOffset ·) = zoneText offset := by
  have htime : ∀ c ∈ timeText t, (!beginsOffset c) = true := fun c hc => by
    rw [not_beginsOffset_of_mem_timeText t c hc]
    rfl
  rw [List.takeWhile_append_of_pos htime, List.dropWhile_append_of_pos htime]
  cases offset with
  | none => exact ⟨List.append_nil _, rfl⟩
  | some offset =>
      obtain ⟨rest, heq⟩ := offsetText_eq_cons offset
      have hsign : (!beginsOffset (if offset.micros < 0 then '-' else '+')) = false := by
        split <;> decide
      rw [zoneText, heq, List.takeWhile_cons_of_neg (by simp [hsign]),
        List.dropWhile_cons_of_neg (by simp [hsign])]
      exact ⟨List.append_nil _, rfl⟩

theorem timeAndOffset?_timeText (t : TimeOfDay) (offset : Option Offset) :
    timeAndOffset? (timeText t ++ zoneText offset) = some (t.first, offset.map Offset.asRead) := by
  obtain ⟨htake, hdrop⟩ := span_timeText t offset
  rw [timeAndOffset?, htake, hdrop, clock?_timeText]
  have htime := timeOfDay?_fields t
  cases offset with
  | none =>
      show (Clock.timeOfDay? _).bind _ = _
      rw [htime]
      rfl
  | some offset =>
      have hoffset := offset?_offsetText offset
      obtain ⟨rest, heq⟩ := offsetText_eq_cons offset
      rw [zoneText, heq]
      rw [heq] at hoffset
      show (Clock.timeOfDay? _).bind _ = _
      rw [htime]
      show (offset? _).bind _ = _
      rw [hoffset]
      rfl

/-- **A timestamp is read as it was written**, with any character before the time: as the first of
the times that read alike, and except for the fraction of an offset of less than a second. -/
theorem timestamp?_timestampText (separator : Char) (t : Timestamp) :
    timestamp? (timestampText separator t) = some t.asRead := by
  have hlength := length_dateText t.date
  rw [timestampText_eq, timestamp?, dateLength?_dateText]
  rw [Option.bind_eq_bind, Option.bind_some, List.take_left' hlength, List.drop_left' hlength,
    date?_dateText, Option.bind_eq_bind, Option.bind_some]
  dsimp only
  rw [timeAndOffset?_timeText]
  rfl

end Iso

end RowShell
