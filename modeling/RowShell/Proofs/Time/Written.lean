/-
Written dates and timestamps are read back.

A text is read by a pattern before it is read in ISO 8601 form.  For a date and for a timestamp
without an offset that makes no difference: the pattern that reads the text gives the same as the
other reader would.  A timestamp with an offset is read by no pattern.

So what is lost is what the other reader loses: the fraction of an offset of less than a second,
and the mark of a time as the second of two.  `ofText?_timestampText` says so for both separators
between date and time.
-/
import RowShell.Proofs.Time.Pattern

namespace RowShell

namespace Text

/-- A text that begins and ends with something else than a blank is trimmed already. -/
theorem trim_eq_self {cs : List Char} (hfirst : ∀ c, cs.head? = some c → isBlank c = false)
    (hlast : ∀ c, cs.getLast? = some c → isBlank c = false) : trim cs = cs := by
  have hstart : ∀ ds : List Char, (∀ c, ds.head? = some c → isBlank c = false) →
      trimStart ds = ds := by
    intro ds hds
    cases ds with
    | nil => rfl
    | cons c ds => exact List.dropWhile_cons_of_neg (by simp [hds c rfl])
  rw [trim, hstart cs hfirst, trimEnd, hstart cs.reverse, List.reverse_reverse]
  rw [List.head?_reverse]
  exact hlast

end Text

/-! ### Offsets of less than a second -/

/-- Not zero, and less than a second on either side. -/
def Offset.IsSubsecond (offset : Offset) : Prop :=
  offset.micros ≠ 0 ∧ offset.micros.natAbs < 1000000

instance (offset : Offset) : Decidable offset.IsSubsecond := inferInstanceAs (Decidable (_ ∧ _))

theorem Offset.asRead_eq (offset : Offset) :
    offset.asRead = if offset.IsSubsecond then .utc else offset := by
  by_cases hsubsecond : offset.IsSubsecond
  · rw [if_pos hsubsecond, asRead, if_pos hsubsecond.2]
  · rw [if_neg hsubsecond, asRead]
    split
    · next hbrief =>
        have hzero : offset.micros = 0 := by
          by_contra hne
          exact hsubsecond ⟨hne, hbrief⟩
        obtain ⟨micros, hsmall⟩ := offset
        subst hzero
        rfl
    · rfl

namespace Timestamp

/-- With an offset of less than a second. -/
def HasSubsecondOffset (t : Timestamp) : Prop :=
  ∃ offset, t.offset = some offset ∧ offset.IsSubsecond

theorem asRead_of_hasSubsecondOffset {t : Timestamp} (h : t.HasSubsecondOffset) :
    t.asRead = { t.first with offset := some .utc } := by
  obtain ⟨offset, hsome, hbrief⟩ := h
  rw [asRead, hsome, Option.map_some, offset.asRead_eq, if_pos hbrief]

theorem asRead_of_not_hasSubsecondOffset {t : Timestamp} (h : ¬ t.HasSubsecondOffset) :
    t.asRead = t.first := by
  obtain ⟨date, time, offset⟩ := t
  cases offset with
  | none => rfl
  | some offset =>
      have hlong : ¬ offset.IsSubsecond := fun hbrief => h ⟨offset, rfl, hbrief⟩
      rw [asRead, Option.map_some, offset.asRead_eq, if_neg hlong]
      rfl

/-- **What is read has the date, the fields and the offset of the timestamp**, unless the offset is
less than a second. -/
theorem asRead_eq_first_iff {t : Timestamp} :
    t.asRead = t.first ↔ ¬ t.HasSubsecondOffset := by
  refine ⟨fun h hbrief => ?_, asRead_of_not_hasSubsecondOffset⟩
  rw [asRead_of_hasSubsecondOffset hbrief] at h
  obtain ⟨offset, hsome, hne, -⟩ := hbrief
  have hutc : some Offset.utc = t.offset := congrArg Timestamp.offset h
  rw [hsome] at hutc
  cases hutc
  exact hne rfl

end Timestamp

namespace Iso

open Numeral Text

/-! ### Both ends of a written text -/

def EndsInDigit (cs : List Char) : Prop := ∃ c, cs.getLast? = some c ∧ isAsciiDigit c = true

theorem EndsInDigit.append {ds : List Char} (h : EndsInDigit ds) (cs : List Char) :
    EndsInDigit (cs ++ ds) := by
  obtain ⟨c, hlast, hdigit⟩ := h
  exact ⟨c, by rw [List.getLast?_append, hlast, Option.some_or], hdigit⟩

/-- What may be left out does not change how a text ends. -/
theorem EndsInDigit.append_or_nil {cs ds : List Char} (h : EndsInDigit cs)
    (hds : ds = [] ∨ EndsInDigit ds) : EndsInDigit (cs ++ ds) := by
  rcases hds with rfl | hds
  · rwa [List.append_nil]
  · exact hds.append cs

theorem EndsInDigit.cons {ds : List Char} (h : EndsInDigit ds) (c : Char) : EndsInDigit (c :: ds) :=
  h.append [c]

theorem endsInDigit_padded (width n : Nat) : EndsInDigit (padded width n) := by
  obtain ⟨hne, hdigits⟩ := isDigits_padded width n
  exact ⟨_, List.getLast?_eq_some_getLast hne, hdigits _ (List.getLast_mem hne)⟩

theorem endsInDigit_dateText (d : Date) : EndsInDigit (dateText d) :=
  ((endsInDigit_padded 2 d.day).cons '-').append _

theorem fractionText_eq_nil_or (micros : Nat) :
    fractionText micros = [] ∨ EndsInDigit (fractionText micros) := by
  unfold fractionText
  split
  · exact .inl rfl
  · exact .inr ((endsInDigit_padded 6 micros).cons '.')

theorem endsInDigit_timeText (t : TimeOfDay) : EndsInDigit (timeText t) :=
  (((endsInDigit_padded 2 t.second).cons ':').append _).append_or_nil
    (fractionText_eq_nil_or t.micro)

theorem zoneText_eq_nil_or (offset : Option Offset) :
    zoneText offset = [] ∨ EndsInDigit (zoneText offset) := by
  cases offset with
  | none => exact .inl rfl
  | some offset =>
      right
      refine EndsInDigit.append_or_nil (((endsInDigit_padded 2 _).cons ':').append _) ?_
      split
      · exact .inl rfl
      · exact .inr (((endsInDigit_padded 2 _).cons ':').append_or_nil (fractionText_eq_nil_or _))

/-- A text that begins with a date and ends with a digit is trimmed already. -/
theorem trim_dateText {d : Date} {rest : List Char} (h : EndsInDigit (dateText d ++ rest)) :
    trim (dateText d ++ rest) = dateText d ++ rest := by
  refine trim_eq_self ?_ ?_
  · obtain ⟨digit, more, hdigit, hcons⟩ := exists_padded_eq_cons 4 d.year
    intro c hc
    rw [dateText_eq, hcons] at hc
    cases hc
    exact Leading.not_isBlank_of_isAsciiDigit hdigit
  · obtain ⟨digit, hlast, hdigit⟩ := h
    intro c hc
    rw [hlast] at hc
    cases hc
    exact Leading.not_isBlank_of_isAsciiDigit hdigit

end Iso

namespace Timestamp

open Iso

theorem ofText?_ofList {cs : List Char} (h : Text.trim cs = cs) : ofText? (String.ofList cs) =
    (patterns.findSome? fun pattern => pattern.timestamp? (slashed cs)).or (timestamp? cs) := by
  unfold ofText?
  rw [String.toList_ofList, h]

/-- **A written date is read as its midnight.** -/
theorem ofText?_dateText (d : Date) : ofText? (String.ofList (dateText d)) = some (.ofDate d) := by
  have hends : EndsInDigit (dateText d ++ []) := by
    rw [List.append_nil]
    exact endsInDigit_dateText d
  have htrim := trim_dateText hends
  rw [List.append_nil] at htrim
  rw [ofText?_ofList htrim, Pattern.findSome?_dateText, Option.some_or]

/-- **A written timestamp is read back** as the first of the times that read alike, and except for
the fraction of an offset of less than a second. -/
theorem ofText?_timestampText {separator : Char} (hseparator : separator = ' ' ∨ separator = 'T')
    (t : Timestamp) : ofText? (String.ofList (timestampText separator t)) = some t.asRead := by
  have hends := (endsInDigit_timeText t.time).append_or_nil (zoneText_eq_nil_or t.offset)
  have htrim := trim_dateText ((hends.cons separator).append (dateText t.date))
  rw [← timestampText_eq] at htrim
  rw [ofText?_ofList htrim, Pattern.findSome?_timestampText hseparator, timestamp?_timestampText]
  by_cases hnone : t.offset = none
  · have hread : t.asRead = t.first := by
      refine asRead_of_not_hasSubsecondOffset fun hbrief => ?_
      obtain ⟨offset, hsome, -⟩ := hbrief
      rw [hnone] at hsome
      cases hsome
    rw [if_pos hnone, Option.some_or, hread]
  · rw [if_neg hnone, Option.none_or]

end Timestamp

/-! ### Marks

No text tells the second of two times that read alike from the first.
-/

theorem TimeOfDay.fold_of?_eq {hour minute second micro : Nat} {t : TimeOfDay}
    (h : of? hour minute second micro = some t) : t.fold = false := by
  unfold of? at h
  split at h
  · cases h
    rfl
  · cases h

theorem Pattern.fold_timestamp?_eq {pattern : Pattern} {cs : List Char} {t : Timestamp}
    (h : pattern.timestamp? cs = some t) : t.time.fold = false := by
  simp only [timestamp?, Option.bind_eq_bind, Option.bind_eq_some_iff] at h
  obtain ⟨fields, -, date, -, time, htime, h⟩ := h
  cases h
  exact TimeOfDay.fold_of?_eq htime

namespace Iso

theorem fold_timeAndOffset?_eq {cs : List Char} {time : TimeOfDay} {offset : Option Offset}
    (h : timeAndOffset? cs = some (time, offset)) : time.fold = false := by
  simp only [timeAndOffset?, Option.bind_eq_bind, Option.bind_eq_some_iff] at h
  obtain ⟨clock, -, h⟩ := h
  split at h
  · rw [Option.ite_none_right_eq_some] at h
    obtain ⟨t, ht, h⟩ := Option.bind_eq_some_iff.mp h.2
    cases h
    exact TimeOfDay.fold_of?_eq ht
  · simp only [Option.bind_eq_some_iff] at h
    obtain ⟨t, ht, zone, -, h⟩ := h
    cases h
    exact TimeOfDay.fold_of?_eq ht

theorem fold_timestamp?_eq {cs : List Char} {t : Timestamp} (h : timestamp? cs = some t) :
    t.time.fold = false := by
  simp only [timestamp?, Option.bind_eq_bind, Option.bind_eq_some_iff] at h
  obtain ⟨length, -, date, -, h⟩ := h
  split at h
  · cases h
    rfl
  · obtain ⟨⟨time, offset⟩, hread, h⟩ := Option.bind_eq_some_iff.mp h
    cases h
    exact fold_timeAndOffset?_eq hread

end Iso

/-- **What is read from a text is not marked** as the second of two. -/
theorem Timestamp.fold_ofText?_eq {s : String} {t : Timestamp} (h : ofText? s = some t) :
    t.time.fold = false := by
  unfold ofText? at h
  rw [Option.or_eq_some_iff] at h
  rcases h with h | ⟨-, h⟩
  · obtain ⟨pattern, -, hread⟩ := List.exists_of_findSome?_eq_some h
    exact Pattern.fold_timestamp?_eq hread
  · exact Iso.fold_timestamp?_eq h

end RowShell
