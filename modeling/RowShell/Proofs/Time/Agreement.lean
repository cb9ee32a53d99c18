/-
Patterns and the ISO reader agree.

A text may have both forms: `2024-01-02 03:04` is read by a pattern after its hyphens became
slashes, and by the ISO reader as it stands.  The readers share little.  A pattern takes fields of
one or two digits in any script, runs of blanks and letters of either case; the ISO reader takes
weeks, any separator, times without colons, offsets and fractions of any length.  But on a text
that both read they give the same, and without an offset.

The argument follows the ISO reader.  On its way a text is that of its fields, and the written form
of a field is what a pattern reads as that field.  That the text is not read in another way, as a
week or with an offset, is due to the pattern, which takes only digits, colons and points.
-/
import RowShell.Proofs.Time.Exclusive
import RowShell.Proofs.Time.Inversion
import RowShell.Proofs.Time.Written

namespace RowShell

namespace Pattern

open Iso Text

/-! ### Both readers on a time -/

/-- Fields with colons between them. -/
def colonSeparated : List Field → Pattern
  | [] => []
  | [f] => [.field f]
  | f :: fs => .field f :: .character ':' :: colonSeparated fs

theorem eq_of_stands {pattern c : Char} (hpattern : pattern.isUpper = false)
    (h : stands pattern c = true) : c = pattern := by
  refine (eq_or_isLower_of_stands h).resolve_right ?_
  intro hletter
  rw [hpattern] at hletter
  exact absurd hletter.2 (by decide)

theorem fields?_character_eq_some {pattern : Char} {rest : Pattern} {cs : List Char}
    {fields : List (Field × Nat)} (h : fields? (.character pattern :: rest) cs = some fields) :
    ∃ c next, cs = c :: next ∧ stands pattern c = true ∧ fields? rest next = some fields := by
  cases cs with
  | nil => cases h
  | cons c next =>
      rw [fields?, Option.ite_none_right_eq_some] at h
      exact ⟨c, next, rfl, h⟩

/-- After the last field with a colon a time has a fraction or ends. -/
def EndsTime (tail : Pattern) : Prop := tail = [] ∨ tail = [.character '.', .field .fraction]

/-- The end of a time is read alike by both readers. -/
theorem fields?_clock_end {tail : Pattern} (htail : EndsTime tail)
    {more n : Nat} {colons : Option Bool} {rest : List Char} {fields : List (Field × Nat)}
    {clock : Clock} (hn : n < 100) (hread : fields? tail rest = some fields)
    (hclock : clock? (more + 1) colons (padded 2 n ++ rest) = some clock)
    (hcomplete : clock.complete = true) :
    clock.fields = [n] ∧ (fields = [] ∧ clock.micro = 0 ∨ fields = [(.fraction, clock.micro)]) := by
  rcases htail with rfl | rfl
  · rw [fields?, Option.ite_none_right_eq_some, List.isEmpty_iff] at hread
    obtain ⟨rfl, hread⟩ := hread
    cases hread
    rw [clock?_end more colons hn] at hclock
    cases hclock
    exact ⟨rfl, .inl ⟨rfl, rfl⟩⟩
  · obtain ⟨c, next, rfl, hstands, hfraction⟩ := fields?_character_eq_some hread
    obtain rfl := eq_of_stands (by decide) hstands
    obtain ⟨later, hlater, rfl⟩ := clock?_point_eq_some hn hclock hcomplete
    rw [fields?, Option.bind_eq_bind, Option.bind_eq_some_iff] at hfraction
    obtain ⟨⟨micro, left⟩, hfield, hfraction⟩ := hfraction
    obtain ⟨others, hothers, hfields⟩ := Option.bind_eq_some_iff.mp hfraction
    rw [fields?, Option.ite_none_right_eq_some, List.isEmpty_iff] at hothers
    obtain ⟨rfl, hothers⟩ := hothers
    cases hothers
    cases hfields
    rw [fraction?_of_field? hfield] at hlater
    cases hlater
    exact ⟨rfl, .inr rfl⟩

/-- **A time with colons is read alike by both readers**, field by field. -/
theorem fields?_clock {tail : Pattern} (htail : EndsTime tail) {fs : List Field} (hfs : fs ≠ [])
    (hwidth : ∀ f ∈ fs, f.width = 2) :
    ∀ {more : Nat} {colons : Option Bool} {cs : List Char} {fields : List (Field × Nat)}
      {clock : Clock}, fs.length ≤ more → colons.getD true = true →
      fields? (colonSeparated fs ++ tail) cs = some fields → clock? more colons cs = some clock →
      clock.complete = true → (∀ i (f : Field), fs[i]? = some f → f.Holds (clock.field i)) →
      clock.fields.length = fs.length ∧ ∃ last, fields = fs.zip clock.fields ++ last ∧
        (last = [] ∧ clock.micro = 0 ∨ last = [(.fraction, clock.micro)]) := by
  induction fs with
  | nil => exact absurd rfl hfs
  | cons f fs ih =>
      intro more colons cs fields clock hmore hcolons hread hclock hcomplete hholds
      obtain ⟨more, rfl⟩ : ∃ m, more = m + 1 := ⟨more - 1, by simp at hmore; omega⟩
      have hnumber := hclock
      rw [clock?, Option.bind_eq_bind, Option.bind_eq_some_iff] at hnumber
      obtain ⟨⟨n, rest⟩, hnumber, -⟩ := hnumber
      obtain ⟨hn, rfl⟩ := (number?_eq_some (by decide)).mp hnumber
      have hn : n < 100 := hn
      have hfield := hholds 0 f rfl
      rw [field_zero_of_clock? hn hclock] at hfield
      have hstep := fun pattern => fields?_field hfield pattern rest
      rw [hwidth f (by simp)] at hstep
      cases fs with
      | nil =>
          rw [colonSeparated, List.singleton_append, hstep] at hread
          obtain ⟨last, hlast, rfl⟩ := Option.map_eq_some_iff.mp hread
          obtain ⟨hfields, hend⟩ := fields?_clock_end htail hn hlast hclock hcomplete
          rw [hfields]
          exact ⟨rfl, last, rfl, hend⟩
      | cons g fs =>
          rw [colonSeparated, List.cons_append, List.cons_append, hstep] at hread
          · obtain ⟨others, hothers, rfl⟩ := Option.map_eq_some_iff.mp hread
            obtain ⟨c, next, rfl, hstands, hothers⟩ := fields?_character_eq_some hothers
            obtain rfl := eq_of_stands (by decide) hstands
            obtain ⟨later, hlater, rfl⟩ := clock?_colon_eq_some hn hcolons hclock hcomplete
            have hwidths : ∀ f ∈ g :: fs, f.width = 2 := fun f hf => hwidth f (by simp [hf])
            have hless : (g :: fs).length ≤ more := Nat.le_of_succ_le_succ hmore
            obtain ⟨hlength, last, rfl, hend⟩ := ih (List.cons_ne_nil g fs) hwidths hless rfl
              hothers hlater hcomplete fun i f hf => hholds (i + 1) f hf
            exact ⟨congrArg Nat.succ hlength, last, rfl, hend⟩
          · exact List.cons_ne_nil g fs

/-! ### What a pattern reads -/

theorem isDigit_of_within {least greatest c : Char} (hleast : '0' ≤ least)
    (hgreatest : greatest ≤ '9') (h : within least greatest c = true) :
    isDigit c = true := by
  rw [within, Bool.and_eq_true, decide_eq_true_eq, decide_eq_true_eq] at h
  refine Leading.isDigit_of_isAsciiDigit ?_
  rw [isAsciiDigit, Bool.and_eq_true, decide_eq_true_eq, decide_eq_true_eq]
  exact ⟨Char.le_trans hleast h.1, Char.le_trans h.2 hgreatest⟩

/-- What is read is one digit or several, and what follows them. -/
def ReadsDigits (cs rest : List Char) : Prop :=
  ∃ c digits, cs = c :: digits ++ rest ∧ ∀ d ∈ c :: digits, isDigit d = true

theorem readsDigits_of_append {digits cs rest : List Char} (hcs : cs = digits ++ rest)
    (hne : digits ≠ []) (hdigits : ∀ d ∈ digits, isDigit d = true) : ReadsDigits cs rest := by
  obtain ⟨c, more, rfl⟩ := List.exists_cons_of_ne_nil hne
  exact ⟨c, more, hcs, hdigits⟩

theorem readsDigits_oneOrTwo? {two : Char → Char → Bool} {one : Char → Bool} {cs rest : List Char}
    {n : Nat} (htwo : ∀ a b, two a b = true → isDigit a = true ∧ isDigit b = true)
    (hone : ∀ a, one a = true → isDigit a = true) (h : oneOrTwo? two one cs = some (n, rest)) :
    ReadsDigits cs rest := by
  unfold oneOrTwo? at h
  split at h
  · next a b more =>
      split at h
      · next hab =>
          cases h
          exact ⟨a, [b], rfl, by simp [htwo a b hab]⟩
      · rw [Option.ite_none_right_eq_some] at h
        obtain ⟨ha, h⟩ := h
        cases h
        exact ⟨a, [], rfl, by simp [hone a ha]⟩
  · next a =>
      rw [Option.ite_none_right_eq_some] at h
      obtain ⟨ha, h⟩ := h
      cases h
      exact ⟨a, [], rfl, by simp [hone a ha]⟩
  · cases h

/-- Two digits with a bound, as an hour has: after the greatest first digit come fewer, and after
a lesser one any. -/
theorem isDigit_of_bounded {last ones tens a b : Char} (hlast : isDigit last = true)
    (hones : ones ≤ '9') (htens : tens ≤ '9')
    (h : (a == last && within '0' ones b || within '0' tens a && isDigit b) = true) :
    isDigit a = true ∧ isDigit b = true := by
  simp only [Bool.or_eq_true, Bool.and_eq_true, beq_iff_eq] at h
  rcases h with ⟨rfl, hb⟩ | ⟨ha, hb⟩
  · exact ⟨hlast, isDigit_of_within (by decide) hones hb⟩
  · exact ⟨isDigit_of_within (by decide) htens ha, hb⟩

/-- **A field has digits only**, except that a day may have a blank in front. -/
theorem readsDigits_field? {f : Field} (hf : f ≠ .day) {cs rest : List Char} {n : Nat}
    (h : field? f cs = some (n, rest)) : ReadsDigits cs rest := by
  cases f with
  | year =>
      unfold field? at h
      dsimp only at h
      rw [Option.ite_none_right_eq_some] at h
      obtain ⟨⟨hlength, hall⟩, h⟩ := h
      cases h
      have hne : cs.take 4 ≠ [] := List.ne_nil_of_length_pos (by omega)
      exact readsDigits_of_append (List.take_append_drop 4 cs).symm hne (List.all_eq_true.mp hall)
  | month =>
      refine readsDigits_oneOrTwo? ?_ (fun _ => isDigit_of_within (by decide) (by decide)) h
      intro a b hab
      simp only [Bool.or_eq_true, Bool.and_eq_true, beq_iff_eq] at hab
      rcases hab with ⟨rfl, hb⟩ | ⟨rfl, hb⟩
      · exact ⟨by decide, isDigit_of_within (by decide) (by decide) hb⟩
      · exact ⟨by decide, isDigit_of_within (by decide) (by decide) hb⟩
  | day => exact absurd rfl hf
  | hour =>
      refine readsDigits_oneOrTwo? ?_ (fun _ => id) h
      intro a b hab
      exact isDigit_of_bounded (by decide) (by decide) (by decide) hab
  | minute =>
      refine readsDigits_oneOrTwo? ?_ (fun _ => id) h
      intro a b hab
      rw [Bool.and_eq_true] at hab
      exact ⟨isDigit_of_within (by decide) (by decide) hab.1, hab.2⟩
  | second =>
      refine readsDigits_oneOrTwo? ?_ (fun _ => id) h
      intro a b hab
      exact isDigit_of_bounded (by decide) (by decide) (by decide) hab
  | fraction =>
      unfold field? at h
      dsimp only at h
      rw [Option.ite_none_left_eq_some] at h
      obtain ⟨hne, h⟩ := h
      cases h
      rw [List.isEmpty_iff] at hne
      have hprefix : (cs.take 6).takeWhile isAsciiDigit <+: cs :=
        (List.takeWhile_prefix _).trans (List.take_prefix 6 cs)
      refine readsDigits_of_append (List.prefix_iff_eq_append.mp hprefix).symm hne ?_
      intro d hd
      exact Leading.isDigit_of_isAsciiDigit (List.mem_takeWhile_imp hd)

/-- The elements of times: fields and the characters between them. -/
def Element.IsOfTime : Element → Prop
  | .field f => f ≠ .day
  | .blanks => False
  | .character c => c = ':' ∨ c = '.'

theorem isOfTime_of_mem {time : Pattern} (h : time ∈ timePatterns) : ∀ e ∈ time, e.IsOfTime := by
  simp only [timePatterns, List.mem_cons, List.not_mem_nil, or_false] at h
  rcases h with rfl | rfl | rfl <;>
    simp [Timestamp.fractionPattern, Timestamp.secondPattern, Timestamp.minutePattern,
      Element.IsOfTime]

/-- A time is read from digits, colons and points. -/
theorem mem_of_fields? {p : Pattern} (hp : ∀ e ∈ p, e.IsOfTime) {cs : List Char}
    {fields : List (Field × Nat)} (h : fields? p cs = some fields) :
    ∀ c ∈ cs, isDigit c = true ∨ c = ':' ∨ c = '.' := by
  induction p generalizing cs fields with
  | nil =>
      rw [fields?, Option.ite_none_right_eq_some, List.isEmpty_iff] at h
      rw [h.1]
      exact List.forall_mem_nil _
  | cons e p ih =>
      obtain ⟨he, hrest⟩ := List.forall_mem_cons.mp hp
      cases e with
      | field f =>
          rw [fields?, Option.bind_eq_bind, Option.bind_eq_some_iff] at h
          obtain ⟨⟨n, rest⟩, hfield, h⟩ := h
          obtain ⟨others, hothers, -⟩ := Option.bind_eq_some_iff.mp h
          obtain ⟨d, digits, rfl, hdigits⟩ := readsDigits_field? he hfield
          intro c hc
          rcases List.mem_append.mp hc with hc | hc
          · exact .inl (hdigits c hc)
          · exact ih hrest hothers c hc
      | blanks => exact he.elim
      | character pattern =>
          obtain ⟨c, next, rfl, hstands, hnext⟩ := fields?_character_eq_some h
          have hupper : pattern.isUpper = false := by
            rcases he with rfl | rfl <;> decide
          obtain rfl := eq_of_stands hupper hstands
          exact List.forall_mem_cons.mpr ⟨.inr he, ih hrest hnext⟩

/-- A text that a pattern of timestamps reads has a slash after four characters and then a
digit. -/
theorem getElem?_of_fields? {p : Pattern} {cs : List Char} {fields : List (Field × Nat)}
    (h : fields? (Timestamp.datePattern ++ p) cs = some fields) :
    cs[4]? = some '/' ∧ ∃ c, cs[5]? = some c ∧ isDigit c = true := by
  change fields? (.field .year :: .character '/' :: .field .month :: _) cs = some fields at h
  rw [fields?, Option.bind_eq_bind, Option.bind_eq_some_iff] at h
  obtain ⟨⟨year, rest⟩, hyear, h⟩ := h
  obtain ⟨others, hothers, -⟩ := Option.bind_eq_some_iff.mp h
  have hrest : cs.drop 4 = rest := by
    unfold field? at hyear
    dsimp only at hyear
    rw [Option.ite_none_right_eq_some] at hyear
    exact (Prod.mk.inj (Option.some.inj hyear.2)).2
  obtain ⟨slash, next, hcons, hstands, hnext⟩ := fields?_character_eq_some hothers
  obtain rfl := eq_of_stands (by decide) hstands
  rw [fields?, Option.bind_eq_bind, Option.bind_eq_some_iff] at hnext
  obtain ⟨⟨month, rest'⟩, hmonth, -⟩ := hnext
  obtain ⟨c, digits, rfl, hdigits⟩ := readsDigits_field? (by decide) hmonth
  have hat : ∀ i, cs[4 + i]? = ('/' :: (c :: digits ++ rest'))[i]? := by
    intro i
    rw [← hcons, ← hrest, List.getElem?_drop]
  exact ⟨hat 0, c, hat 1, hdigits c (by simp)⟩

/-! ### Agreement -/

theorem ne_of_isDigit_or {c : Char} (h : isDigit c = true ∨ c = ':' ∨ c = '.') :
    c ≠ '/' ∧ beginsOffset c = false := by
  have hne : ∀ other, isDigit other = false → other ≠ ':' → other ≠ '.' → c ≠ other := by
    intro other hdigit hcolon hpoint heq
    subst heq
    rcases h with h | h | h
    · rw [hdigit] at h
      cases h
    · exact hcolon h
    · exact hpoint h
  have hslash := hne '/' (by decide) (by decide) (by decide)
  have hplus := hne '+' (by decide) (by decide) (by decide)
  have hminus := hne '-' (by decide) (by decide) (by decide)
  have hutc := hne 'Z' (by decide) (by decide) (by decide)
  exact ⟨hslash, by simp [beginsOffset, hplus, hminus, hutc]⟩

/-- A time that a pattern reads holds no hyphen and nothing that begins an offset. -/
theorem mem_of_fields?_slashed {time : Pattern} (htime : time ∈ timePatterns) {cs : List Char}
    {fields : List (Field × Nat)} (h : fields? time (Timestamp.slashed cs) = some fields) :
    ∀ c ∈ cs, c ≠ '-' ∧ beginsOffset c = false := by
  intro c hc
  have hslashed : (if c == '-' then '/' else c) ∈ Timestamp.slashed cs := List.mem_map_of_mem hc
  have hread := ne_of_isDigit_or (mem_of_fields? (isOfTime_of_mem htime) h _ hslashed)
  by_cases hhyphen : c = '-'
  · subst hhyphen
    exact absurd rfl hread.1
  · rw [if_neg (by simpa using hhyphen)] at hread
    exact ⟨hhyphen, hread.2⟩

theorem holds_of_timeOfDay? {clock : Clock} {t : TimeOfDay} (h : clock.timeOfDay? = some t) :
    clock.field 0 < 24 ∧ clock.field 1 < 60 ∧ clock.field 2 < 60 := by
  unfold Clock.timeOfDay? TimeOfDay.of? at h
  split at h
  · next hrange => exact ⟨hrange.1, hrange.2.1, hrange.2.2.1⟩
  · cases h

/-- A pattern of times is two or three fields with colons, and a fraction or nothing. -/
theorem exists_colonSeparated {time : Pattern} (htime : time ∈ timePatterns) :
    ∃ fs tail, (fs = [.hour, .minute] ∨ fs = [.hour, .minute, .second]) ∧
      EndsTime tail ∧ time = colonSeparated fs ++ tail := by
  simp only [timePatterns, List.mem_cons, List.not_mem_nil, or_false] at htime
  rcases htime with rfl | rfl | rfl
  · exact ⟨_, _, .inr rfl, .inr rfl, rfl⟩
  · exact ⟨_, _, .inr rfl, .inl rfl, rfl⟩
  · exact ⟨_, _, .inl rfl, .inl rfl, rfl⟩

/-- The fields that a pattern of times reads are those of the clock reading, and zero where it has
ended. -/
theorem valueOf_eq_field {time : Pattern} (htime : time ∈ timePatterns) {cs : List Char}
    {fields : List (Field × Nat)} {clock : Clock} {t : TimeOfDay}
    (hread : fields? time cs = some fields) (hclock : clock? 3 none cs = some clock)
    (hcomplete : clock.complete = true) (ht : clock.timeOfDay? = some t) :
    valueOf fields .hour = clock.field 0 ∧ valueOf fields .minute = clock.field 1 ∧
      valueOf fields .second = clock.field 2 ∧ valueOf fields .fraction = clock.micro := by
  obtain ⟨fs, tail, hfs, htail, rfl⟩ := exists_colonSeparated htime
  obtain ⟨hhour, hminute, hsecond⟩ := holds_of_timeOfDay? ht
  have hholds : ∀ i (f : Field), fs[i]? = some f → f.Holds (clock.field i) := by
    intro i f hf
    rcases hfs with rfl | rfl
    · match i, hf with
      | 0, rfl => exact hhour
      | 1, rfl => exact hminute
    · match i, hf with
      | 0, rfl => exact hhour
      | 1, rfl => exact hminute
      | 2, rfl => exact hsecond
  have hshape : fs ≠ [] ∧ fs.length ≤ 3 ∧ ∀ f ∈ fs, f.width = 2 := by
    rcases hfs with rfl | rfl <;> simp [Field.width]
  obtain ⟨hlength, last, rfl, hlast⟩ := fields?_clock htail hshape.1 hshape.2.2 hshape.2.1 rfl
    hread hclock hcomplete hholds
  unfold Clock.field
  rcases hfs with rfl | rfl
  · obtain ⟨hour, minute, hfields⟩ := List.length_eq_two.mp hlength
    rw [hfields]
    rcases hlast with ⟨rfl, hzero⟩ | rfl
    · exact ⟨rfl, rfl, rfl, hzero.symm⟩
    · exact ⟨rfl, rfl, rfl, rfl⟩
  · obtain ⟨hour, minute, second, hfields⟩ := List.length_eq_three.mp hlength
    rw [hfields]
    rcases hlast with ⟨rfl, hzero⟩ | rfl
    · exact ⟨rfl, rfl, rfl, hzero.symm⟩
    · exact ⟨rfl, rfl, rfl, rfl⟩

/-- **A time that both readers read is the same time**, and the ISO reader finds no offset. -/
theorem onDate?_eq_of_timeAndOffset? {time : Pattern} (htime : time ∈ timePatterns) (d : Date)
    {cs : List Char} {fields : List (Field × Nat)} {t : TimeOfDay} {offset : Option Offset}
    (hread : fields? time (Timestamp.slashed cs) = some fields)
    (hiso : timeAndOffset? cs = some (t, offset)) :
    onDate? d fields = some ⟨d, t, none⟩ ∧ offset = none := by
  have hmem := mem_of_fields?_slashed htime hread
  rw [slashed_eq_self fun c hc => (hmem c hc).1] at hread
  have htake : cs.takeWhile (!beginsOffset ·) = cs :=
    List.takeWhile_eq_self_iff.mpr fun c hc => by rw [(hmem c hc).2]; rfl
  have hdrop : cs.dropWhile (!beginsOffset ·) = [] :=
    List.dropWhile_eq_nil_iff.mpr fun c hc => by rw [(hmem c hc).2]; rfl
  rw [timeAndOffset?, htake, hdrop, Option.bind_eq_bind, Option.bind_eq_some_iff] at hiso
  obtain ⟨clock, hclock, hiso⟩ := hiso
  dsimp only at hiso
  rw [Option.ite_none_right_eq_some] at hiso
  obtain ⟨hcomplete, hiso⟩ := hiso
  obtain ⟨t', ht, hiso⟩ := Option.bind_eq_some_iff.mp hiso
  cases hiso
  obtain ⟨hhour, hminute, hsecond, hfraction⟩ := valueOf_eq_field htime hread hclock hcomplete ht
  refine ⟨?_, rfl⟩
  rw [onDate?, hhour, hminute, hsecond, hfraction, ← Clock.timeOfDay?, ht]
  rfl

/-- A time that the ISO reader reads begins with a digit. -/
theorem not_isBlank_of_timeAndOffset? {cs : List Char} {read : TimeOfDay × Option Offset}
    (h : timeAndOffset? cs = some read) :
    ∀ c, (Timestamp.slashed cs).head? = some c → isBlank c = false := by
  rw [timeAndOffset?, Option.bind_eq_bind, Option.bind_eq_some_iff] at h
  obtain ⟨clock, hclock, -⟩ := h
  rw [clock?, Option.bind_eq_bind, Option.bind_eq_some_iff] at hclock
  obtain ⟨⟨n, rest⟩, hnumber, -⟩ := hclock
  obtain ⟨-, htake⟩ := (number?_eq_some (by decide)).mp hnumber
  obtain ⟨digit, digits, hdigit, hcons⟩ := exists_padded_eq_cons 2 n
  obtain ⟨left, rfl⟩ : digit :: digits ++ rest <+: cs := by
    rw [← hcons, ← htake]
    exact List.takeWhile_prefix _
  have hhyphen : digit ≠ '-' := by
    rintro rfl
    exact absurd hdigit (by decide)
  intro c hc
  change some (if digit == '-' then '/' else digit) = some c at hc
  rw [if_neg (by simpa using hhyphen)] at hc
  cases hc
  exact Leading.not_isBlank_of_isAsciiDigit hdigit

/-- What follows the date is read alike by both readers. -/
theorem onDate?_eq_of_rest {ending : Pattern} (hending : ending ∈ endings) (d : Date)
    {separator : Char} {cs : List Char} {fields : List (Field × Nat)} {t : TimeOfDay}
    {offset : Option Offset}
    (hread : fields? ending (Timestamp.slashed (separator :: cs)) = some fields)
    (hiso : timeAndOffset? cs = some (t, offset)) :
    onDate? d fields = some ⟨d, t, none⟩ ∧ offset = none := by
  obtain ⟨mark, hmark⟩ : ∃ mark, Timestamp.slashed (separator :: cs) =
      mark :: Timestamp.slashed cs := ⟨_, rfl⟩
  rw [hmark] at hread
  unfold endings at hending
  simp only [List.mem_append, List.mem_map, List.mem_singleton] at hending
  rcases hending with (⟨time, htime, rfl⟩ | ⟨time, htime, rfl⟩) | rfl
  · have hblank : isBlank mark = true := by
      by_contra hnot
      rw [fields?, List.head?_cons, Option.any_some, if_neg hnot] at hread
      cases hread
    rw [fields?_blanks time hblank (not_isBlank_of_timeAndOffset? hiso)] at hread
    exact onDate?_eq_of_timeAndOffset? htime d hread hiso
  · rw [fields?, Option.ite_none_right_eq_some] at hread
    exact onDate?_eq_of_timeAndOffset? htime d hread.2 hiso
  · cases hread

theorem le_dateLength? {cs : List Char} {length : Nat} (h : dateLength? cs = some length) :
    7 ≤ length := by
  unfold dateLength? at h
  dsimp only at h
  split_ifs at h <;> simp only [Option.some_inj] at h <;> omega

/-- **A text that begins with a date for both readers begins with it in its written form.** -/
theorem take_eq_dateText {p : Pattern} {cs : List Char} {fields : List (Field × Nat)} {length : Nat}
    {d : Date} (hread : fields? (Timestamp.datePattern ++ p) (Timestamp.slashed cs) = some fields)
    (hlength : dateLength? cs = some length) (hdate : date? (cs.take length) = some d) :
    cs.take length = dateText d := by
  obtain ⟨hslash, c, hc, hdigit⟩ := getElem?_of_fields? hread
  unfold Timestamp.slashed at hslash hc
  rw [List.getElem?_map, Option.map_eq_some_iff] at hslash hc
  obtain ⟨mark, hmark, hslash⟩ := hslash
  obtain ⟨digit, hat, rfl⟩ := hc
  have hseven := le_dateLength? hlength
  have hhyphen : digit ≠ '-' := by
    rintro rfl
    exact absurd hdigit (by decide)
  rw [if_neg (by simpa using hhyphen)] at hdigit
  rw [← List.getElem?_take_of_lt (show 4 < length by omega)] at hmark
  rw [← List.getElem?_take_of_lt (show 5 < length by omega)] at hat
  refine date?_eq_some hdate ?_ hat hdigit
  by_cases hsame : mark = '-'
  · exact .inl (hsame ▸ hmark)
  · rw [if_neg (by simpa using hsame)] at hslash
    exact .inr (hslash ▸ hmark)

/-- **A text that is read by a pattern and by the ISO reader is read alike**, and without an
offset. -/
theorem timestamp?_agree {p : Pattern} (hp : p ∈ Timestamp.patterns) {cs : List Char}
    {t u : Timestamp} (hread : p.timestamp? (Timestamp.slashed cs) = some t)
    (hiso : Iso.timestamp? cs = some u) : t = u ∧ t.offset = none := by
  rw [patterns_eq_map, List.mem_map] at hp
  obtain ⟨ending, hending, rfl⟩ := hp
  rw [Iso.timestamp?, Option.bind_eq_bind, Option.bind_eq_some_iff] at hiso
  obtain ⟨length, hlength, hiso⟩ := hiso
  obtain ⟨d, hdate, hiso⟩ := Option.bind_eq_some_iff.mp hiso
  have htake : cs.take length = dateText d := by
    have hsome := hread
    rw [timestamp?, Option.bind_eq_bind, Option.bind_eq_some_iff] at hsome
    obtain ⟨fields, hfields, -⟩ := hsome
    exact take_eq_dateText hfields hlength hdate
  rw [← List.take_append_drop length cs, htake, slashed_append, timestamp?_datePattern,
    Option.bind_eq_some_iff] at hread
  obtain ⟨fields, hfields, ht⟩ := hread
  generalize cs.drop length = rest at hiso hfields
  cases rest with
  | nil =>
      cases hiso
      unfold endings at hending
      simp only [List.mem_append, List.mem_map, List.mem_singleton] at hending
      rcases hending with (⟨time, htime, rfl⟩ | ⟨time, htime, rfl⟩) | rfl
      · cases hfields
      · cases hfields
      · cases hfields
        cases ht
        exact ⟨rfl, rfl⟩
  | cons separator rest =>
      obtain ⟨⟨time, offset⟩, htime, hiso⟩ := Option.bind_eq_some_iff.mp hiso
      cases hiso
      obtain ⟨hsame, rfl⟩ := onDate?_eq_of_rest hending d hfields htime
      rw [hsame] at ht
      cases ht
      exact ⟨rfl, rfl⟩

end Pattern

namespace Timestamp

/-- Two readers of which each may be asked first. -/
theorem or_comm_of_agree {α : Type} {first second : Option α}
    (h : ∀ a b, first = some a → second = some b → a = b) : first.or second = second.or first := by
  cases first with
  | none => simp
  | some a =>
      cases second with
      | none => rfl
      | some b => rw [h a b rfl rfl]

/-- What a pattern makes of a text, without blanks at both ends and with slashes for hyphens. -/
def byPattern? (s : String) (p : Pattern) : Option Timestamp :=
  p.timestamp? (slashed (Text.trim s.toList))

/-- What the ISO reader makes of a text, without blanks at both ends. -/
def byIso? (s : String) : Option Timestamp := Iso.timestamp? (Text.trim s.toList)

/-- **A text is read as a timestamp in one way.**  Of the patterns at most one reads it, so that
their order does not matter.  What a pattern reads is what the ISO reader reads, if it reads the
text at all, and has no offset.  So the ISO reader could as well be asked first. -/
theorem reads_unambiguously (s : String) :
    patterns.Pairwise (fun p q => byPattern? s p = none ∨ byPattern? s q = none) ∧
    (∀ others : List Pattern, others.Perm patterns →
      others.findSome? (byPattern? s) = patterns.findSome? (byPattern? s)) ∧
    (∀ p ∈ patterns, ∀ t u, byPattern? s p = some t → byIso? s = some u →
      t = u ∧ t.offset = none) ∧
    (Value.text s).timestamp? = (byIso? s).or (patterns.findSome? (byPattern? s)) := by
  have hexclusive : patterns.Pairwise fun p q => byPattern? s p = none ∨ byPattern? s q = none :=
    Pattern.exclusive_patterns.imp fun h =>
      (h _).imp Pattern.timestamp?_eq_none Pattern.timestamp?_eq_none
  refine ⟨hexclusive, ?_, ?_, ?_⟩
  · intro others hperm
    exact findSome?_eq_of_perm hperm hexclusive
  · intro p hp t u hread hiso
    exact Pattern.timestamp?_agree hp hread hiso
  · refine or_comm_of_agree ?_
    intro t u hread hiso
    obtain ⟨p, hp, hread⟩ := List.exists_of_findSome?_eq_some hread
    exact (Pattern.timestamp?_agree hp hread hiso).1

theorem reads_unambiguously_fraction :
    let s := " 2024-01-02 03:04:05.25"
    let t : Timestamp := ⟨⟨2024, 1, 2, by decide⟩, ⟨3, 4, 5, 250000, false⟩, none⟩
    byPattern? s (datePattern ++ .blanks :: fractionPattern) = some t ∧ byIso? s = some t := by
  intro s t
  have hread : byPattern? s (datePattern ++ .blanks :: fractionPattern) = some t := by
    decide +kernel
  obtain ⟨u, hiso⟩ : ∃ u, byIso? s = some u := Option.isSome_iff_exists.mp (by decide +kernel)
  obtain ⟨-, -, hagree, -⟩ := reads_unambiguously s
  obtain ⟨rfl, -⟩ := hagree _ (.head _) t u hread hiso
  exact ⟨hread, hiso⟩

end Timestamp

end RowShell
