/-
Numbers that need no rounding.

Every conversion into a binary64 number rounds to the nearest one.  A ratio that is a
magnitude itself stays as it is: within its run of ordinals it is a whole multiple of the step,
so nothing is left over to be rounded.  An integer that equals some number is therefore
converted to an equal number, and printing that number gives the integer back.  The integers of
at most 53 bits all equal one, so a division that leaves no remainder is exact up to there.
-/
import RowShell.Proofs.Number.Form
import RowShell.Proofs.Number.Numeral
import RowShell.Proofs.Number.Range

namespace RowShell.Binary64

/-! ### A magnitude is nearest to itself -/

/-- The run of ordinals that a normal magnitude lies in. -/
theorem log2_units {ordinal : Nat} (h : 2 ^ 52 ≤ ordinal) :
    (units ordinal).log2 = 52 + (ordinal / 2 ^ 52 - 1) := by
  have hmantissa : ordinal % 2 ^ 52 < 2 ^ 52 := Nat.mod_lt _ (by decide)
  have hunits : units ordinal = (2 ^ 52 + ordinal % 2 ^ 52) * 2 ^ (ordinal / 2 ^ 52 - 1) :=
    if_neg (Nat.not_lt.mpr h)
  rw [Nat.log2_eq_iff (units_ne_zero (by omega)), hunits]
  generalize ordinal / 2 ^ 52 - 1 = exponent
  generalize ordinal % 2 ^ 52 = mantissa at hmantissa
  constructor
  · rw [Nat.pow_add]
    exact Nat.mul_le_mul_right _ (Nat.le_add_right _ _)
  · rw [show 52 + exponent + 1 = 53 + exponent by omega, Nat.pow_add]
    exact Nat.mul_lt_mul_of_pos_right (by omega) (Nat.two_pow_pos _)

/-- A magnitude is a whole multiple of the step of its run, and the multiple tells its
ordinal. -/
theorem exists_units_eq_mul (ordinal : Nat) : ∃ shift whole, (units ordinal).log2 - 52 = shift ∧
    units ordinal = whole * 2 ^ shift ∧ shift * 2 ^ 52 + whole = ordinal := by
  by_cases h : ordinal < 2 ^ 52
  · have hunits : units ordinal = ordinal := if_pos h
    refine ⟨0, ordinal, ?_, by omega, by omega⟩
    by_cases hzero : ordinal = 0
    · subst hzero
      rfl
    · have hlog : ordinal.log2 < 52 := (Nat.log2_lt hzero).mpr h
      rw [hunits]
      omega
  · have hlog := log2_units (Nat.not_lt.mp h)
    exact ⟨ordinal / 2 ^ 52 - 1, 2 ^ 52 + ordinal % 2 ^ 52, by omega, if_neg h, by omega⟩

/-- **A ratio that is a magnitude is not rounded.** -/
theorem nearest_units {num den ordinal : Nat} (hden : 0 < den)
    (h : num * unitsPerOne = den * units ordinal) : nearest num den = ordinal := by
  obtain ⟨shift, whole, hshift, hunits, hordinal⟩ := exists_units_eq_mul ordinal
  have hstep : 0 < den * 2 ^ shift := Nat.mul_pos hden (Nat.two_pow_pos _)
  have hscaled : den * units ordinal = den * 2 ^ shift * whole := by
    rw [hunits, Nat.mul_comm whole, Nat.mul_assoc]
  have hrest : (0 == den * 2 ^ shift) = false := by
    rw [beq_eq_false_iff_ne]
    exact Nat.ne_of_lt hstep
  unfold nearest
  dsimp only
  rw [h, Nat.mul_div_cancel_left _ hden, hshift, hscaled, Nat.mul_mod_right,
    Nat.mul_div_cancel_left _ hstep, hordinal]
  simp [hrest]

/-! ### Integers -/

/-- A number equals an integer if it is finite and has no fraction. -/
theorem toInt?_eq_some {x : Binary64} {n : Int} : x.toInt? = some n ↔
    ∃ negative ordinal, x = .finite negative ordinal ∧ units ordinal % unitsPerOne = 0 ∧
      n = Numeral.signed negative (units ordinal / unitsPerOne) := by
  cases x with
  | nan => simp [toInt?]
  | infinity negative => simp [toInt?]
  | finite negative ordinal =>
      rw [toInt?]
      by_cases hwhole : units ordinal.val % unitsPerOne = 0
      · rw [if_pos hwhole, trunc?, Option.some_inj]
        constructor
        · intro h
          exact ⟨negative, ordinal, rfl, hwhole, h.symm⟩
        · intro h
          obtain ⟨_, _, heq, -, h⟩ := h
          cases heq
          exact h.symm
      · rw [if_neg hwhole]
        refine iff_of_false (by simp) ?_
        intro h
        obtain ⟨_, _, heq, hzero, -⟩ := h
        cases heq
        exact hwhole hzero

/-- **An integer that some number equals is converted to an equal one**, though not with the
sign of a negative zero. -/
theorem ofInt?_of_toInt? {x : Binary64} {n : Int} (h : x.toInt? = some n) :
    ∃ y, ofInt? n = some y ∧ y.toInt? = some n := by
  obtain ⟨negative, ordinal, -, hwhole, hn⟩ := toInt?_eq_some.mp h
  have hnat : n.natAbs = units ordinal / unitsPerOne := by
    rw [hn, Numeral.signed]
    split
    · rw [Int.natAbs_neg, Int.natAbs_natCast]
    · rw [Int.natAbs_natCast]
  have hnearest : nearest n.natAbs 1 = ordinal := by
    refine nearest_units Nat.one_pos ?_
    rw [hnat, Nat.one_mul]
    exact Nat.div_mul_cancel (Nat.dvd_of_mod_eq_zero hwhole)
  refine ⟨.finite (n < 0) ordinal, ?_, ?_⟩
  · rw [ofInt?, ofRatio, hnearest, ofOrdinal, dif_pos ordinal.isLt]
    rfl
  · rw [toInt?_eq_some]
    refine ⟨_, ordinal, rfl, hwhole, ?_⟩
    rw [← hnat, Numeral.signed_natAbs]

/-! ### Small integers -/

/-- A significand of 53 bits with an exponent is a magnitude. -/
theorem units_normal {significand : Nat} (exponent : Nat) (hleast : 2 ^ 52 ≤ significand)
    (hless : significand < 2 ^ 53) :
    units ((exponent + 1) * 2 ^ 52 + (significand - 2 ^ 52)) = significand * 2 ^ exponent := by
  have hdiv : ((exponent + 1) * 2 ^ 52 + (significand - 2 ^ 52)) / 2 ^ 52 = exponent + 1 := by omega
  have hmod : ((exponent + 1) * 2 ^ 52 + (significand - 2 ^ 52)) % 2 ^ 52 = significand - 2 ^ 52 := by
    omega
  rw [units, if_neg (by omega), hdiv, hmod, Nat.add_sub_cancel, Nat.add_sub_cancel' hleast]

/-- Every integer of at most 53 bits is a magnitude. -/
theorem exists_units_eq {n : Nat} (hn : n < 2 ^ 53) :
    ∃ ordinal, ordinal < finiteCount ∧ units ordinal = n * unitsPerOne := by
  by_cases hzero : n = 0
  · subst hzero
    exact ⟨0, by decide, by simp [units]⟩
  · have hlog : n.log2 ≤ 52 := Nat.le_of_lt_succ ((Nat.log2_lt hzero).mpr hn)
    have hleast : 2 ^ 52 ≤ n * 2 ^ (52 - n.log2) := by
      calc 2 ^ 52 = 2 ^ n.log2 * 2 ^ (52 - n.log2) := by rw [← Nat.pow_add, Nat.add_sub_cancel' hlog]
        _ ≤ n * 2 ^ (52 - n.log2) := Nat.mul_le_mul_right _ (Nat.log2_self_le hzero)
    have hless : n * 2 ^ (52 - n.log2) < 2 ^ 53 := by
      calc n * 2 ^ (52 - n.log2) < 2 ^ (n.log2 + 1) * 2 ^ (52 - n.log2) :=
            Nat.mul_lt_mul_of_pos_right Nat.lt_log2_self (Nat.two_pow_pos _)
        _ = 2 ^ 53 := by rw [← Nat.pow_add, show n.log2 + 1 + (52 - n.log2) = 53 by omega]
    refine ⟨(1022 + n.log2 + 1) * 2 ^ 52 + (n * 2 ^ (52 - n.log2) - 2 ^ 52), ?_, ?_⟩
    · unfold finiteCount
      omega
    · rw [units_normal _ hleast hless, unitsPerOne, Nat.mul_assoc, ← Nat.pow_add,
        show 52 - n.log2 + (1022 + n.log2) = 1074 by omega]

/-- **A quotient of at most 53 bits that leaves no remainder is computed exactly.** -/
theorem trunc?_ofRatio_mul {den n : Nat} (negative : Bool) (hden : 0 < den) (hn : n < 2 ^ 53) :
    (ofRatio negative (den * n) den).trunc? = some (Numeral.signed negative n) := by
  obtain ⟨ordinal, hfinite, hunits⟩ := exists_units_eq hn
  have hnearest : nearest (den * n) den = ordinal :=
    nearest_units hden (by rw [hunits, Nat.mul_assoc])
  have hone : 0 < unitsPerOne := by
    unfold unitsPerOne
    positivity
  rw [ofRatio, hnearest, ofOrdinal, dif_pos hfinite, trunc?, hunits, Nat.mul_div_cancel n hone]
  rfl

/-! ### Zero and one -/

theorem units_one : units (1023 * 2 ^ 52) = unitsPerOne := by
  unfold units unitsPerOne
  rw [if_neg (by decide), show 1023 * 2 ^ 52 % 2 ^ 52 = 0 by decide,
    show 1023 * 2 ^ 52 / 2 ^ 52 - 1 = 1022 by decide, Nat.add_zero, ← Nat.pow_add]

/-- The number that stands for a truth value is zero for false only. -/
theorem exists_ofInt?_bool (b : Bool) :
    ∃ x, ofInt? (if b then 1 else 0) = some x ∧ x.isZero = !b := by
  cases b with
  | false =>
      have hnearest : nearest (0 : Int).natAbs 1 = 0 := nearest_units Nat.one_pos (by simp [units])
      refine ⟨.finite false ⟨0, by decide⟩, ?_, rfl⟩
      show (ofRatio false (0 : Int).natAbs 1).finite? = _
      rw [ofRatio, hnearest]
      rfl
  | true =>
      have hnearest : nearest (1 : Int).natAbs 1 = 1023 * 2 ^ 52 := by
        refine nearest_units Nat.one_pos ?_
        rw [units_one, Int.natAbs_one]
      refine ⟨.finite false ⟨1023 * 2 ^ 52, by decide⟩, ?_, rfl⟩
      show (ofRatio false (1 : Int).natAbs 1).finite? = _
      rw [ofRatio, hnearest]
      rfl

/-! ### Numbers with a plain text -/

theorem numberText_of_toInt? {x : Binary64} {n : Int} (h : x.toInt? = some n)
    (hn : n.natAbs < 10 ^ 21) : x.numberText = String.ofList (Numeral.ofInt n) := by
  cases x with
  | nan => cases h
  | infinity negative => cases h
  | finite negative ordinal =>
      unfold numberText
      simp only [h, if_pos hn]

/-- A number that is not finite, or a whole one whose text has neither fraction nor exponent. -/
def IsPlain (x : Binary64) : Prop :=
  x.isFinite = false ∨ ∃ n, x.toInt? = some n ∧ n.natAbs < 10 ^ 21

theorem isFinite_of_toInt? {x : Binary64} {n : Int} (h : x.toInt? = some n) :
    x.isFinite = true := by
  obtain ⟨negative, ordinal, rfl, -⟩ := toInt?_eq_some.mp h
  rfl

theorem not_isLong_of_natAbs_lt {n : Int} (h : n.natAbs < 10 ^ 21) : ¬ Numeral.IsLong n :=
  Numeral.not_isLong_of_lt (k := 70) (by decide) (Nat.lt_trans h (by decide))

end RowShell.Binary64
