/-
Numerals are read back.

An integer is written as its shortest numeral: a minus sign if it is negative, then its
digits without a leading zero.  Two readers can meet such a numeral when a value comes back:
the one for JSON numbers, and the one that takes the integer at the front of a text.  Both
give the integer back.  Nothing but length could keep them from it, and an integer that has a
numeral at all is short enough to be read.
-/
import RowShell.Json
import RowShell.Proofs.Number.Leading

namespace RowShell

namespace Numeral

/-! ### The value of digits -/

/-- Of ASCII digits the value is what core makes of them. -/
theorem value_eq_ofDigitChars {cs : List Char} (h : ∀ c ∈ cs, Text.isAsciiDigit c = true) :
    value cs = Nat.ofDigitChars 10 cs 0 := by
  have hfold : ∀ n, cs.foldl (fun n c => 10 * n + Text.digitValue c) n = Nat.ofDigitChars 10 cs n := by
    induction cs with
    | nil => intro n; rfl
    | cons c cs ih =>
        intro n
        have hc : Text.digitValue c = c.toNat - '0'.toNat := by
          rw [Text.digitValue, Leading.digitValue?_of_isAsciiDigit (h c (by simp))]
          rfl
        rw [List.foldl_cons, hc, Nat.ofDigitChars_cons]
        exact ih (fun d hd => h d (by simp [hd])) _
  exact hfold 0

theorem value_ofNat (n : Nat) : value (ofNat n) = n := by
  rw [value_eq_ofDigitChars (isDigits_ofNat n).2]
  exact Nat.ofDigitChars_ten_toDigits

theorem value?_ofNat {n : Nat} (h : n < 10 ^ maxDigits) : value? (ofNat n) = some n := by
  have hlength : (ofNat n).length ≤ maxDigits :=
    (Nat.length_toDigits_le_iff (by decide) (by decide)).mpr h
  rw [value?, if_pos hlength, value_ofNat]

/-- Only zero begins with the digit zero. -/
theorem eq_zero_of_head?_ofNat {n : Nat} (h : (ofNat n).head? = some '0') : n = 0 := by
  induction n using Nat.strong_induction_on with
  | _ n ih =>
      rw [ofNat, Nat.toDigits_eq_if (by decide)] at h
      by_cases hn : n < 10
      · rw [if_pos hn, List.head?_cons, Option.some_inj] at h
        have hdigits : ∀ d < 10, Nat.digitChar d = '0' → d = 0 := by decide
        exact hdigits n hn h
      · rw [if_neg hn, List.head?_append_of_ne_nil _ Nat.toDigits_ne_nil] at h
        have hfirst := ih (n / 10) (by omega) h
        omega

theorem exists_ofNat_eq_cons (n : Nat) :
    ∃ c rest, Text.isAsciiDigit c = true ∧ ofNat n = c :: rest := by
  obtain ⟨c, rest, heq⟩ := List.exists_cons_of_ne_nil (isDigits_ofNat n).1
  exact ⟨c, rest, (isDigits_ofNat n).2 c (by simp [heq]), heq⟩

/-! ### The sign -/

theorem ofInt_of_neg {n : Int} (h : n < 0) : ofInt n = '-' :: ofNat n.natAbs := by
  cases n with
  | ofNat n => exact absurd h (Int.not_lt.mpr (Int.natCast_nonneg n))
  | negSucc n => rfl

theorem ofInt_of_nonneg {n : Int} (h : 0 ≤ n) : ofInt n = ofNat n.natAbs := by
  cases n with
  | ofNat n => rfl
  | negSucc n => exact absurd h (Int.not_le.mpr (Int.negSucc_lt_zero n))

/-- An integer begins with a digit or a minus sign. -/
theorem exists_ofInt_eq_cons (n : Int) :
    ∃ c rest, (Text.isAsciiDigit c = true ∨ c = '-') ∧ ofInt n = c :: rest := by
  by_cases hneg : n < 0
  · exact ⟨'-', _, .inr rfl, ofInt_of_neg hneg⟩
  · obtain ⟨c, rest, hc, heq⟩ := exists_ofNat_eq_cons n.natAbs
    exact ⟨c, rest, .inl hc, by rw [ofInt_of_nonneg (by omega), heq]⟩

theorem signed_natAbs (n : Int) : signed (decide (n < 0)) n.natAbs = n := by
  unfold signed
  by_cases h : n < 0
  · rw [if_pos (by simpa using h)]
    omega
  · rw [if_neg (by simpa using h)]
    omega

end Numeral

namespace Json

open Numeral

/-! ### JSON numbers

The reader tells values apart by their first character.  A numeral begins with a digit or a
minus sign, and a minus sign is followed by a digit, so it is taken for a number.
-/

/-- What begins with a digit or a minus sign is no string, list or object. -/
theorem value_eq_scalar (d : Dialect) (fuel : Nat) (depth : Option Nat) {c : Char} (rest : List Char)
    (hc : Text.isAsciiDigit c = true ∨ c = '-') :
    value d (fuel + 1) depth (c :: rest) = scalar d (c :: rest) := by
  have hne : ∀ other, Text.isAsciiDigit other = false → other ≠ '-' → c ≠ other := by
    intro other hdigit hminus heq
    subst heq
    rcases hc with hc | hc
    · rw [hdigit] at hc
      cases hc
    · exact hminus hc
  have hspace : skipSpace (c :: rest) = c :: rest := by
    refine List.dropWhile_cons_of_neg ?_
    simp [isSpace, hne ' ' (by decide) (by decide), hne '\t' (by decide) (by decide),
      hne '\n' (by decide) (by decide), hne '\r' (by decide) (by decide)]
  rw [value, hspace]
  split
  · next heq => exact absurd (List.cons.inj heq).1 (hne '"' (by decide) (by decide))
  · next heq => exact absurd (List.cons.inj heq).1 (hne '[' (by decide) (by decide))
  · next heq => exact absurd (List.cons.inj heq).1 (hne '\x7b' (by decide) (by decide))
  · rfl

theorem wholePart?_ofNat (n : Nat) : wholePart? (ofNat n) = some (ofNat n, []) := by
  by_cases hzero : n = 0
  · subst hzero
    rfl
  · have hdigits := isDigits_ofNat n
    have hhead := mt eq_zero_of_head?_ofNat hzero
    have htake : (ofNat n).takeWhile Text.isAsciiDigit = ofNat n :=
      List.takeWhile_eq_self_iff.mpr hdigits.2
    unfold wholePart?
    split
    · next rest heq =>
        rw [heq] at hhead
        simp at hhead
    · simp [htake, hdigits.1]

theorem number_ofNat {d : Dialect} {n : Nat} (negative : Bool) (hd : d.maxWhole = none)
    (hn : n < 10 ^ maxDigits) :
    number d negative (ofNat n) = .ok (.int (signed negative n), []) := by
  unfold number
  rw [wholePart?_ofNat]
  simp [fractionPart, exponentPart, hd, value?_ofNat hn]

/-- No word begins with a digit, with or without a minus sign before it. -/
theorem find?_words_digit {c : Char} (hc : Text.isAsciiDigit c = true) (rest : List Char) :
    (words.find? fun (word, _) => word.toList.isPrefixOf (c :: rest)) = none ∧
      (words.find? fun (word, _) => word.toList.isPrefixOf ('-' :: c :: rest)) = none := by
  have hne : ∀ letter ∈ ['n', 't', 'f', 'N', 'I', '-'], letter ≠ c := by
    intro letter hletter heq
    subst heq
    simp at hletter
    rcases hletter with rfl | rfl | rfl | rfl | rfl | rfl <;> exact absurd hc (by decide)
  simp at hne
  simp [words, hne]

theorem scalar_digit (d : Dialect) {c : Char} (hc : Text.isAsciiDigit c = true) (rest : List Char) :
    scalar d (c :: rest) = number d false (c :: rest) := by
  have hne : c ≠ '-' := by
    intro h
    subst h
    cases hc
  unfold scalar
  rw [(find?_words_digit hc rest).1]
  dsimp only
  split
  · next h => exact absurd (List.cons.inj h).1 hne
  · rfl

theorem scalar_minus (d : Dialect) {c : Char} (hc : Text.isAsciiDigit c = true) (rest : List Char) :
    scalar d ('-' :: c :: rest) = number d true (c :: rest) := by
  unfold scalar
  rw [(find?_words_digit hc rest).2]
  rfl

theorem scalar_ofInt {d : Dialect} {n : Int} (hd : d.maxWhole = none) (hn : ¬ IsLong n) :
    scalar d (ofInt n) = .ok (.int n, []) := by
  have hsigned := signed_natAbs n
  have hsmall : n.natAbs < 10 ^ maxDigits := Nat.lt_of_not_le hn
  obtain ⟨c, rest, hc, heq⟩ := exists_ofNat_eq_cons n.natAbs
  by_cases hneg : n < 0
  · rw [decide_eq_true hneg] at hsigned
    rw [ofInt_of_neg hneg, heq, scalar_minus d hc, ← heq, number_ofNat true hd hsmall, hsigned]
  · rw [decide_eq_false hneg] at hsigned
    rw [ofInt_of_nonneg (by omega), heq, scalar_digit d hc, ← heq, number_ofNat false hd hsmall,
      hsigned]

/-- **The numeral of an integer is the JSON number of the integer.** -/
theorem read_ofInt {d : Dialect} {n : Int} (hd : d.maxWhole = none) (hn : ¬ IsLong n) :
    read d (String.ofList (ofInt n)) = .ok (.int n) := by
  obtain ⟨c, rest, hfirst, heq⟩ := exists_ofInt_eq_cons n
  have hvalue : ∀ fuel depth, value d (fuel + 1) depth (ofInt n) = .ok (.int n, []) := by
    intro fuel depth
    rw [heq, value_eq_scalar d fuel depth rest hfirst, ← heq, scalar_ofInt hd hn]
  unfold read
  rw [String.toList_ofList]
  simp only [hvalue]
  rfl

end Json

namespace Leading

/-! ### The integer at the front of a text -/

theorem integerDigits?_ofInt (n : Int) :
    integerDigits? (Numeral.ofInt n) = some (decide (n < 0), Numeral.ofNat n.natAbs) := by
  have hdigits := Numeral.isDigits_ofNat n.natAbs
  by_cases hneg : n < 0
  · rw [Numeral.ofInt_of_neg hneg, decide_eq_true hneg]
    simpa using integerDigits?_minus hdigits [] (by simp)
  · rw [Numeral.ofInt_of_nonneg (by omega), decide_eq_false hneg]
    simpa using integerDigits?_digits hdigits [] (by simp)

end Leading

end RowShell
