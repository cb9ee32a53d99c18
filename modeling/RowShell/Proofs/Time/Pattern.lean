/-
Patterns and the written form.

A date or time in its written form, with slashes for hyphens, is tried against seven patterns.
Every field is written with as many digits as its pattern can take, so a pattern reads the fields
that it shares with the text and what counts is what is left then.  `findSome?_timestampText`
says which pattern wins: without an offset the one that ends where the text ends, and with an
offset none, for there is always something left.
-/
import RowShell.Proofs.Time.Iso
import RowShell.Value.Reading

namespace RowShell

open Iso

/-- The number of digits in which a field is written. -/
def Field.width : Field → Nat
  | .year => 4
  | .fraction => 6
  | _ => 2

/-- The values of a field. -/
def Field.Holds (n : Nat) : Field → Prop
  | .year => n ≤ 9999
  | .month => 1 ≤ n ∧ n ≤ 12
  | .day => 1 ≤ n ∧ n ≤ 31
  | .hour => n < 24
  | .minute => n < 60
  | .second => n < 60
  | .fraction => n < 1000000

namespace Pattern

open Numeral Text

/-! ### Fields -/

theorem padded_two {n : Nat} (hn : n < 100) :
    padded 2 n = [Nat.digitChar (n / 10), Nat.digitChar (n % 10)] := by
  have hall : ∀ n < 100, padded 2 n = [Nat.digitChar (n / 10), Nat.digitChar (n % 10)] := by
    decide
  exact hall n hn

/-- Two digits that are accepted together are both read.  Which numbers are accepted is found out
by trying them all. -/
theorem oneOrTwo?_padded {two : Char → Char → Bool} {one : Char → Bool} {first count n : Nat}
    (hcount : first + count ≤ 100) (h : first ≤ n ∧ n < first + count)
    (hall : ((List.range' first count).all fun n =>
      two (Nat.digitChar (n / 10)) (Nat.digitChar (n % 10))) = true) (rest : List Char) :
    oneOrTwo? two one (padded 2 n ++ rest) = some (n, rest) := by
  have htwo : two (Nat.digitChar (n / 10)) (Nat.digitChar (n % 10)) = true :=
    List.all_eq_true.mp hall n (List.mem_range'_1.mpr h)
  have hvalue := value_padded 2 n
  rw [padded_two (by omega)] at hvalue ⊢
  show (if two _ _ = true then some (value [_, _], rest) else _) = _
  rw [if_pos htwo, hvalue]

theorem field?_year {n : Nat} (h : n ≤ 9999) (rest : List Char) :
    field? .year (padded 4 n ++ rest) = some (n, rest) := by
  have hlength := length_padded (w := 4) (n := n) (by decide) (Nat.lt_succ_of_le h)
  have hall : (padded 4 n).all isDigit = true := List.all_eq_true.mpr fun c hc =>
    Leading.isDigit_of_isAsciiDigit ((isDigits_padded 4 n).2 c hc)
  rw [field?, List.take_left' hlength, List.drop_left' hlength, if_pos ⟨hlength, hall⟩,
    value_padded]

/-- A blank may stand in place of the leading zero of a day, but is not written there. -/
theorem field?_day {n : Nat} (hpos : 1 ≤ n) (h : n ≤ 31) (rest : List Char) :
    field? .day (padded 2 n ++ rest) = some (n, rest) := by
  rw [field?, day?]
  · exact oneOrTwo?_padded (show 1 + 31 ≤ 100 by decide) ⟨hpos, by omega⟩ (by decide) rest
  · intro next more heq
    obtain ⟨c, digits, hc, hcons⟩ := exists_padded_eq_cons 2 n
    rw [hcons, List.cons_append] at heq
    rw [(List.cons.inj heq).1] at hc
    exact absurd hc (by decide)

theorem field?_fraction {n : Nat} (h : n < 1000000) (rest : List Char) :
    field? .fraction (padded 6 n ++ rest) = some (n, rest) := by
  have hlength := length_padded (w := 6) (n := n) (by decide) h
  have hdigits := isDigits_padded 6 n
  have htake : (padded 6 n).takeWhile isAsciiDigit = padded 6 n :=
    List.takeWhile_eq_self_iff.mpr hdigits.2
  rw [field?, List.take_left' hlength, htake, if_neg (by simpa using hdigits.1), hlength,
    List.drop_left' hlength, value_padded, Nat.sub_self, Nat.pow_zero, Nat.mul_one]

/-- **A field is read as it was written**, whatever follows it. -/
theorem field?_padded {f : Field} {n : Nat} (h : f.Holds n) (rest : List Char) :
    field? f (padded f.width n ++ rest) = some (n, rest) := by
  cases f with
  | year => exact field?_year h rest
  | month =>
      exact oneOrTwo?_padded (show 1 + 12 ≤ 100 by decide) ⟨h.1, Nat.lt_succ_of_le h.2⟩
        (by decide) rest
  | day => exact field?_day h.1 h.2 rest
  | hour =>
      exact oneOrTwo?_padded (show 0 + 24 ≤ 100 by decide) ⟨Nat.zero_le n, h⟩ (by decide) rest
  | minute =>
      exact oneOrTwo?_padded (show 0 + 60 ≤ 100 by decide) ⟨Nat.zero_le n, h⟩ (by decide) rest
  | second =>
      exact oneOrTwo?_padded (show 0 + 60 ≤ 100 by decide) ⟨Nat.zero_le n, h⟩ (by decide) rest
  | fraction => exact field?_fraction h rest

theorem fields?_field {f : Field} {n : Nat} (h : f.Holds n) (pattern : Pattern) (rest : List Char) :
    fields? (.field f :: pattern) (padded f.width n ++ rest) =
      (fields? pattern rest).map ((f, n) :: ·) := by
  rw [fields?, field?_padded h, Option.map_eq_bind]
  rfl

theorem fields?_character {p c : Char} (h : stands p c = true) (pattern : Pattern)
    (rest : List Char) : fields? (.character p :: pattern) (c :: rest) = fields? pattern rest :=
  if_pos h

theorem fields?_character_eq_none {p c : Char} (h : stands p c = false) (pattern : Pattern)
    (rest : List Char) : fields? (.character p :: pattern) (c :: rest) = none :=
  if_neg (by simp [h])

/-! ### Slashes for hyphens -/

theorem slashed_append (cs ds : List Char) :
    Timestamp.slashed (cs ++ ds) = Timestamp.slashed cs ++ Timestamp.slashed ds :=
  List.map_append

theorem slashed_hyphen (cs : List Char) :
    Timestamp.slashed ('-' :: cs) = '/' :: Timestamp.slashed cs := rfl

theorem slashed_eq_self {cs : List Char} (h : ∀ c ∈ cs, c ≠ '-') : Timestamp.slashed cs = cs := by
  unfold Timestamp.slashed
  refine (List.map_congr_left ?_).trans (List.map_id cs)
  intro c hc
  rw [if_neg (by simpa using h c hc), id]

theorem slashed_padded (width n : Nat) : Timestamp.slashed (padded width n) = padded width n := by
  refine slashed_eq_self fun c hc heq => ?_
  have hdigit := (isDigits_padded width n).2 c hc
  rw [heq] at hdigit
  exact absurd hdigit (by decide)

theorem slashed_timeText (t : TimeOfDay) : Timestamp.slashed (timeText t) = timeText t := by
  refine slashed_eq_self fun c hc heq => ?_
  have hsign := not_beginsOffset_of_mem_timeText t c hc
  rw [heq] at hsign
  exact absurd hsign (by decide)

theorem slashed_dateText (d : Date) : Timestamp.slashed (dateText d) =
    padded 4 d.year ++ ('/' :: (padded 2 d.month ++ ('/' :: padded 2 d.day))) := by
  simp only [dateText, slashed_append, slashed_hyphen, slashed_padded, List.append_assoc,
    List.cons_append]

/-! ### The date -/

/-- A timestamp of a date and the other fields of a pattern. -/
def onDate? (d : Date) (fields : List (Field × Nat)) : Option Timestamp :=
  (TimeOfDay.of? (valueOf fields .hour) (valueOf fields .minute) (valueOf fields .second)
    (valueOf fields .fraction)).map fun time => ⟨d, time, none⟩

theorem fields?_datePattern (d : Date) (pattern : Pattern) (rest : List Char) :
    fields? (Timestamp.datePattern ++ pattern) (Timestamp.slashed (dateText d) ++ rest) =
      (fields? pattern rest).map fun fields =>
        (.year, d.year) :: (.month, d.month) :: (.day, d.day) :: fields := by
  obtain ⟨-, hyear, hmonth, hmonth', hday, hday'⟩ := d.valid
  have hlast := Date.daysInMonth_le d.year d.month
  rw [slashed_dateText, List.append_assoc, List.cons_append, List.append_assoc, List.cons_append]
  show fields? (.field .year :: .character '/' :: .field .month :: .character '/' :: .field .day ::
    pattern) (padded Field.year.width d.year ++ '/' :: (padded Field.month.width d.month ++
      '/' :: (padded Field.day.width d.day ++ rest))) = _
  rw [fields?_field (f := .year) hyear, fields?_character (by decide),
    fields?_field (f := .month) ⟨hmonth, hmonth'⟩, fields?_character (by decide),
    fields?_field (f := .day) ⟨hday, Nat.le_trans hday' hlast⟩, Option.map_map, Option.map_map]
  rfl

/-- **A pattern that begins with a date reads the date of a text** and goes on after it. -/
theorem timestamp?_datePattern (d : Date) (pattern : Pattern) (rest : List Char) :
    timestamp? (Timestamp.datePattern ++ pattern) (Timestamp.slashed (dateText d) ++ rest) =
      (fields? pattern rest).bind (onDate? d) := by
  have hdate : Date.of? d.year d.month d.day = some d := dif_pos d.valid
  rw [timestamp?, fields?_datePattern]
  cases fields? pattern rest with
  | none => rfl
  | some fields =>
      show (Date.of? d.year d.month d.day).bind _ = _
      rw [hdate, Option.bind_some, Option.bind_some, onDate?, Option.map_eq_bind]
      rfl

/-! ### The time -/

/-- The fields of a time of day that are always written. -/
def clockFields (t : TimeOfDay) : List (Field × Nat) :=
  [(.hour, t.hour), (.minute, t.minute), (.second, t.second)]

/-- Hours and minutes leave the seconds unread. -/
theorem fields?_minutePattern (t : TimeOfDay) (zone : List Char) :
    fields? Timestamp.minutePattern (timeText t ++ zone) = none := by
  rw [timeText_eq]
  show fields? [.field .hour, .character ':', .field .minute] (padded Field.hour.width t.hour ++
    ':' :: (padded Field.minute.width t.minute ++ _)) = none
  rw [fields?_field (f := .hour) t.hour.isLt, fields?_character (by decide),
    fields?_field (f := .minute) t.minute.isLt]
  rfl

/-- A pattern that begins with hours, minutes and seconds reads those of a time. -/
theorem fields?_secondPattern (t : TimeOfDay) (pattern : Pattern) (zone : List Char) :
    fields? (Timestamp.secondPattern ++ pattern) (timeText t ++ zone) =
      (fields? pattern (fractionText t.micro ++ zone)).map (clockFields t ++ ·) := by
  rw [timeText_eq]
  show fields? (.field .hour :: .character ':' :: .field .minute :: .character ':' ::
    .field .second :: pattern) (padded Field.hour.width t.hour ++ ':' ::
      (padded Field.minute.width t.minute ++ ':' :: (padded Field.second.width t.second ++ _))) = _
  rw [fields?_field (f := .hour) t.hour.isLt, fields?_character (by decide),
    fields?_field (f := .minute) t.minute.isLt, fields?_character (by decide),
    fields?_field (f := .second) t.second.isLt, Option.map_map, Option.map_map]
  rfl

/-! ### What is left after the seconds

A fraction if there is one, and then the zone: nothing, or the text of an offset, which does not
begin with a point.
-/

variable {zone : List Char}

/-- A point and a fraction are what is left if there is a fraction and no zone. -/
theorem fields?_fractionText {micros : Nat} (hmicros : micros < 1000000)
    (hzone : ∀ c, zone.head? = some c → stands '.' c = false) :
    fields? [.character '.', .field .fraction] (fractionText micros ++ zone) =
      if micros ≠ 0 ∧ zone = [] then some [(.fraction, micros)] else none := by
  unfold fractionText
  by_cases hzero : micros = 0
  · rw [if_pos hzero, if_neg fun h => h.1 hzero]
    cases zone with
    | nil => rfl
    | cons c zone => exact fields?_character_eq_none (hzone c rfl) _ _
  · rw [if_neg hzero, List.cons_append, fields?_character (by decide)]
    show fields? [.field .fraction] (padded Field.fraction.width micros ++ zone) = _
    rw [fields?_field (f := .fraction) hmicros]
    cases zone with
    | nil => rw [if_pos ⟨hzero, rfl⟩]; rfl
    | cons c zone => rw [if_neg fun h => nomatch h.2]; rfl

/-- Nothing is left if there is neither a fraction nor a zone. -/
theorem fields?_nil_fractionText (micros : Nat) :
    fields? [] (fractionText micros ++ zone) =
      if micros = 0 ∧ zone = [] then some [] else none := by
  unfold fractionText
  by_cases hzero : micros = 0
  · rw [if_pos hzero]
    cases zone with
    | nil => rw [if_pos ⟨hzero, rfl⟩]; rfl
    | cons c zone => rw [if_neg fun h => nomatch h.2]; rfl
  · rw [if_neg hzero, if_neg fun h => hzero h.1]
    rfl

/-- The patterns of times, the longest first. -/
def timePatterns : List Pattern :=
  [Timestamp.fractionPattern, Timestamp.secondPattern, Timestamp.minutePattern]

theorem onDate?_clockFields (d : Date) (t : TimeOfDay) {fields : List (Field × Nat)}
    (h : valueOf (clockFields t ++ fields) .fraction = t.micro.val) :
    onDate? d (clockFields t ++ fields) = some ⟨d, t.first, none⟩ := by
  have htime : TimeOfDay.of? t.hour t.minute t.second t.micro = some t.first :=
    dif_pos ⟨t.hour.isLt, t.minute.isLt, t.second.isLt, t.micro.isLt⟩
  rw [onDate?, h]
  show (TimeOfDay.of? t.hour t.minute t.second t.micro).map _ = _
  rw [htime]
  rfl

/-- **A time without a zone is read by the pattern that ends with it**, with a fraction by the
first and without one by the second.  A time with a zone is read by none. -/
theorem findSome?_timeText (d : Date) (t : TimeOfDay)
    (hzone : ∀ c, zone.head? = some c → stands '.' c = false) :
    (timePatterns.findSome? fun time => (fields? time (timeText t ++ zone)).bind (onDate? d)) =
      if zone = [] then some ⟨d, t.first, none⟩ else none := by
  have hfraction : fields? Timestamp.fractionPattern (timeText t ++ zone) = _ :=
    (fields?_secondPattern t _ zone).trans
      (congrArg (Option.map _) (fields?_fractionText t.micro.isLt hzone))
  have hsecond : fields? Timestamp.secondPattern (timeText t ++ zone) = _ :=
    (fields?_secondPattern t [] zone).trans (congrArg (Option.map _) (fields?_nil_fractionText _))
  have hminute := fields?_minutePattern t zone
  unfold timePatterns
  rw [List.findSome?_cons, List.findSome?_cons, List.findSome?_cons, List.findSome?_nil, hfraction,
    hsecond, hminute]
  by_cases hnone : zone = []
  · by_cases hzero : t.micro.val = 0
    · rw [if_neg fun h => h.1 hzero, if_pos ⟨hzero, hnone⟩, if_pos hnone]
      simp only [Option.map_none, Option.map_some, Option.bind_none, Option.bind_some]
      have hvalue : valueOf (clockFields t ++ []) .fraction = t.micro.val := hzero.symm
      rw [onDate?_clockFields d t hvalue]
    · rw [if_pos ⟨hzero, hnone⟩, if_pos hnone]
      simp only [Option.map_some, Option.bind_some]
      rw [onDate?_clockFields d t rfl]
  · rw [if_neg fun h => hnone h.2, if_neg fun h => hnone h.2, if_neg hnone]
    rfl

/-! ### Whole texts -/

/-- Each time is tried after blanks and after the letter, and the date alone at last. -/
theorem patterns_eq : Timestamp.patterns =
    timePatterns.map (fun time => Timestamp.datePattern ++ .blanks :: time) ++
      timePatterns.map (fun time => Timestamp.datePattern ++ .character 'T' :: time) ++
      [Timestamp.datePattern ++ []] := rfl

/-- **A date alone is read by the last pattern.** -/
theorem findSome?_dateText (d : Date) :
    (Timestamp.patterns.findSome? fun pattern =>
      pattern.timestamp? (Timestamp.slashed (dateText d))) = some (.ofDate d) := by
  have hdate := fun pattern => timestamp?_datePattern d pattern []
  simp only [List.append_nil] at hdate
  rw [patterns_eq]
  simp only [timePatterns, List.map_cons, List.map_nil, List.cons_append, List.nil_append,
    List.findSome?_cons, hdate]
  rfl

/-- The blanks of a pattern end where the text goes on. -/
theorem fields?_blanks (pattern : Pattern) {blank : Char} (hblank : isBlank blank = true)
    {cs : List Char} (hcs : ∀ c, cs.head? = some c → isBlank c = false) :
    fields? (.blanks :: pattern) (blank :: cs) = fields? pattern cs := by
  have htrim : trimStart (blank :: cs) = cs := by
    unfold trimStart
    rw [List.dropWhile_cons_of_pos hblank]
    cases cs with
    | nil => rfl
    | cons c cs => exact List.dropWhile_cons_of_neg (by simp [hcs c rfl])
  have hhead : (blank :: cs).head?.any isBlank = true := by
    rw [List.head?_cons, Option.any_some, hblank]
  rw [fields?, if_pos hhead, htrim]

/-- **A date and a time are read as the time is**, by the patterns with their separator. -/
theorem findSome?_separated {separator : Char} (hseparator : separator = ' ' ∨ separator = 'T')
    (d : Date) {cs : List Char} (hcs : ∀ c, cs.head? = some c → isBlank c = false) :
    (Timestamp.patterns.findSome? fun pattern =>
      pattern.timestamp? (Timestamp.slashed (dateText d) ++ separator :: cs)) =
      timePatterns.findSome? fun time => (fields? time cs).bind (onDate? d) := by
  have hend : fields? [] (separator :: cs) = none := rfl
  have hnone : (timePatterns.findSome? fun _ => (none : Option Timestamp)) = none := rfl
  rw [patterns_eq, List.findSome?_append, List.findSome?_append, List.findSome?_map,
    List.findSome?_map]
  simp only [Function.comp_def, timestamp?_datePattern, List.findSome?_cons, List.findSome?_nil,
    hend, Option.bind_none, Option.or_none]
  rcases hseparator with rfl | rfl
  · have hstands : stands 'T' ' ' = false := by decide
    have hletter := fun time => fields?_character_eq_none hstands time cs
    have hblank : isBlank ' ' = true := by decide
    simp only [fields?_blanks _ hblank hcs, hletter, Option.bind_none, hnone, Option.or_none]
  · have hblanks : ∀ time, fields? (.blanks :: time) ('T' :: cs) = none := by
      intro time
      have hblank : ('T' :: cs).head?.any isBlank = false := by
        rw [List.head?_cons]
        decide
      rw [fields?, hblank]
      rfl
    have hletter := fun time => fields?_character (show stands 'T' 'T' = true by decide) time cs
    simp only [hblanks, hletter, Option.bind_none, hnone, Option.none_or]

theorem slashed_timestampText {separator : Char} (hseparator : separator ≠ '-') (t : Timestamp) :
    Timestamp.slashed (timestampText separator t) = Timestamp.slashed (dateText t.date) ++
      separator :: (timeText t.time ++ Timestamp.slashed (zoneText t.offset)) := by
  have hcons : ∀ cs, Timestamp.slashed (separator :: cs) = separator :: Timestamp.slashed cs :=
    fun cs => congrArg (· :: _) (if_neg (by simpa using hseparator))
  rw [timestampText_eq, slashed_append, hcons, slashed_append, slashed_timeText]

/-- A time begins with a digit. -/
theorem not_isBlank_timeText (t : TimeOfDay) (zone : List Char) :
    ∀ c, (timeText t ++ zone).head? = some c → isBlank c = false := by
  obtain ⟨digit, rest, hdigit, hcons⟩ := exists_padded_eq_cons 2 t.hour
  intro c hc
  rw [timeText_eq, hcons] at hc
  cases hc
  exact Leading.not_isBlank_of_isAsciiDigit hdigit

/-- An offset begins with a plus sign or with the slash for a minus sign. -/
theorem slashed_zoneText (offset : Option Offset) :
    (Timestamp.slashed (zoneText offset) = [] ↔ offset = none) ∧
      ∀ c, (Timestamp.slashed (zoneText offset)).head? = some c → stands '.' c = false := by
  cases offset with
  | none => exact ⟨iff_of_true rfl rfl, fun c hc => nomatch hc⟩
  | some offset =>
      obtain ⟨rest, heq⟩ := offsetText_eq_cons offset
      rw [zoneText, heq]
      refine ⟨iff_of_false (List.cons_ne_nil _ _) (Option.some_ne_none _), fun c hc => ?_⟩
      have hsign : c = if offset.micros < 0 then '/' else '+' := by
        split at hc <;> cases hc <;> simp [*]
      rw [hsign]
      split <;> decide

/-- **A written timestamp is read by a pattern if it has no offset**, and then as the first of the
times that read alike. -/
theorem findSome?_timestampText {separator : Char} (hseparator : separator = ' ' ∨ separator = 'T')
    (t : Timestamp) :
    (Timestamp.patterns.findSome? fun pattern =>
      pattern.timestamp? (Timestamp.slashed (timestampText separator t))) =
      if t.offset = none then some t.first else none := by
  obtain ⟨hnil, hhead⟩ := slashed_zoneText t.offset
  have hhyphen : separator ≠ '-' := by rcases hseparator with rfl | rfl <;> decide
  rw [slashed_timestampText hhyphen, findSome?_separated hseparator t.date
    (not_isBlank_timeText t.time _), findSome?_timeText t.date t.time hhead]
  by_cases hnone : t.offset = none
  · rw [if_pos (hnil.mpr hnone), if_pos hnone, ← hnone]
    rfl
  · rw [if_neg fun h => hnone (hnil.mp h), if_neg hnone]

end Pattern

end RowShell
