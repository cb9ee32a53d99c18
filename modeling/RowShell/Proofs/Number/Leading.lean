/-
The integer that a text begins with.

Reading it fails only if it has too many digits.  Texts that stand for bytes, dates and
timestamps never begin with such an integer: the first begin with a letter, the others with
the four digits of a year.
-/
import RowShell.Proofs.Number.Form

namespace RowShell

namespace Leading

theorem digitValue?_of_isAsciiDigit {c : Char} (h : Text.isAsciiDigit c = true) :
    Text.digitValue? c = some (c.toNat - 0x30) := by
  simp only [Text.isAsciiDigit, Bool.and_eq_true, decide_eq_true_eq] at h
  unfold Text.digitValue? Text.digitZeros
  rw [List.find?_cons_of_pos]
  · rfl
  · simp only [Bool.and_eq_true, decide_eq_true_eq]
    omega

theorem isDigit_of_isAsciiDigit {c : Char} (h : Text.isAsciiDigit c = true) :
    Text.isDigit c = true := by
  rw [Text.isDigit, digitValue?_of_isAsciiDigit h]
  rfl

theorem not_isBlank_of_isAsciiDigit {c : Char} (h : Text.isAsciiDigit c = true) :
    Text.isBlank c = false := by
  simp only [Text.isAsciiDigit, Bool.and_eq_true, decide_eq_true_eq] at h
  simp only [Text.isBlank, Text.isWhiteSpace, Bool.or_eq_false_iff, Bool.and_eq_false_iff,
    decide_eq_false_iff_not, beq_eq_false_iff_ne]
  omega

/-- The digits at the front of a text end where no digit follows. -/
theorem takeWhile_digits {digits rest : List Char} (h : Numeral.IsDigits digits)
    (hrest : ∀ c, rest.head? = some c → Text.isDigit c = false) :
    (digits ++ rest).takeWhile Text.isDigit = digits := by
  rw [List.takeWhile_append_of_pos fun c hc => isDigit_of_isAsciiDigit (h.2 c hc)]
  cases rest with
  | nil => simp
  | cons c rest => simp [hrest c rfl]

/-- Digits at the front of a text are its integer. -/
theorem integerDigits?_digits {digits : List Char} (h : Numeral.IsDigits digits) (rest : List Char)
    (hrest : ∀ c, rest.head? = some c → Text.isDigit c = false) :
    integerDigits? (digits ++ rest) = some (false, digits) := by
  have htake := takeWhile_digits h hrest
  obtain ⟨c, digits, rfl⟩ := List.exists_cons_of_ne_nil h.1
  have hc := h.2 c (by simp)
  have hblank := not_isBlank_of_isAsciiDigit hc
  have hminus : c ≠ '-' := by
    intro heq
    subst heq
    exact absurd hc (by decide)
  have hplus : c ≠ '+' := by
    intro heq
    subst heq
    exact absurd hc (by decide)
  have htrim : Text.trimStart (c :: digits ++ rest) = c :: digits ++ rest :=
    List.dropWhile_cons_of_neg (by simp [hblank])
  have hsign : Numeral.spanSign (c :: digits ++ rest) = (false, c :: digits ++ rest) := by
    simp [Numeral.spanSign, hminus, hplus]
  unfold integerDigits?
  rw [htrim, hsign]
  dsimp only
  rw [htake]
  rfl

/-- So are digits after a minus sign. -/
theorem integerDigits?_minus {digits : List Char} (h : Numeral.IsDigits digits) (rest : List Char)
    (hrest : ∀ c, rest.head? = some c → Text.isDigit c = false) :
    integerDigits? ('-' :: (digits ++ rest)) = some (true, digits) := by
  have htrim : Text.trimStart ('-' :: (digits ++ rest)) = '-' :: (digits ++ rest) :=
    List.dropWhile_cons_of_neg (by decide)
  unfold integerDigits?
  rw [htrim, Numeral.spanSign]
  dsimp only
  rw [takeWhile_digits h hrest, if_neg (by simpa using h.1)]

end Leading

/-- The text begins with an integer of too many digits. -/
def LeadsTooLong (text : String) : Prop :=
  ∃ negative digits, Leading.integerDigits? text.toList = some (negative, digits) ∧
    Numeral.maxDigits < digits.length

theorem not_leadsTooLong_bytes (data : List UInt8) : ¬ LeadsTooLong (Text.inspectBytes data) := by
  intro h
  obtain ⟨negative, digits, h, -⟩ := h
  unfold Text.inspectBytes at h
  dsimp only at h
  rw [String.toList_ofList] at h
  have hfirst : ∀ rest, Leading.integerDigits? ('b' :: rest) = none := by
    intro rest
    have htrim : Text.trimStart ('b' :: rest) = 'b' :: rest :=
      List.dropWhile_cons_of_neg (by decide)
    have htake : ('b' :: rest).takeWhile Text.isDigit = [] :=
      List.takeWhile_cons_of_neg (by decide)
    unfold Leading.integerDigits?
    rw [htrim]
    change (if (('b' :: rest).takeWhile Text.isDigit).isEmpty then none else _) = _
    rw [htake]
    rfl
  rw [List.cons_append, hfirst] at h
  cases h

/-- A date begins with its year, which has four digits. -/
theorem not_leadsTooLong_date (d : Date) (rest : List Char) :
    ¬ LeadsTooLong (String.ofList (Iso.dateText d ++ rest)) := by
  intro h
  obtain ⟨negative, digits, h, hlong⟩ := h
  have hyear : Numeral.IsDigits (Iso.padded 4 d.year) :=
    (Numeral.isDigits_ofNat d.year).append_left (Binary64.isAsciiDigit_of_mem_replicate _)
  have hlength : (Iso.padded 4 d.year).length = 4 := by
    have hvalid : d.year ≤ 9999 := d.valid.2.1
    have hdigits : (Numeral.ofNat d.year).length ≤ 4 :=
      (Nat.length_toDigits_le_iff (by decide) (by decide)).mpr (by omega)
    simp only [Iso.padded, List.length_append, List.length_replicate]
    omega
  rw [String.toList_ofList, Iso.dateText, List.append_assoc, List.append_assoc, List.cons_append,
    Leading.integerDigits?_digits hyear _ (by simp; decide)] at h
  cases h
  rw [hlength] at hlong
  exact absurd hlong (by decide)

theorem not_leadsTooLong_timestamp (separator : Char) (t : Timestamp) :
    ¬ LeadsTooLong (String.ofList (Iso.timestampText separator t)) := by
  unfold Iso.timestampText
  rw [List.append_assoc]
  exact not_leadsTooLong_date t.date _

end RowShell
