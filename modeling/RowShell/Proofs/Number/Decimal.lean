/-
The number of a decimal.

A decimal is read as the number nearest to it.  Where its exponent decides the result by itself,
the number is given without computing the power: beyond the finite numbers it is infinite, and
below half of the least one it is zero.  `ofDecimal_eq` says that rounding comes to the same.
-/
import RowShell.Number.Shortest
import RowShell.Proofs.Number.Form
import RowShell.Proofs.Number.Range

namespace RowShell.Binary64

/-- A ratio of less than half a unit is nearest to zero. -/
theorem nearest_eq_zero {num den : Nat} (h : 2 * (num * unitsPerOne) < den) :
    nearest num den = 0 := by
  have hdiv : num * unitsPerOne / den = 0 := Nat.div_eq_of_lt (by omega)
  have hmod : num * unitsPerOne % den = num * unitsPerOne := Nat.mod_eq_of_lt (by omega)
  have htie : (2 * (num * unitsPerOne) == den) = false := beq_eq_false_iff_ne.mpr (by omega)
  simp only [nearest, hdiv, Nat.log2_zero, Nat.zero_sub, Nat.pow_zero, Nat.mul_one, hmod, htie,
    Nat.zero_mul, Nat.add_zero, Bool.false_and, Bool.or_false, decide_eq_true_eq]
  exact if_neg (by omega)

/-- A power of ten that is great enough leaves the finite numbers whatever the digits are. -/
theorem finiteCount_le_nearest_of_great {digits exponent : Nat} (hdigits : digits ≠ 0)
    (h : 400 ≤ exponent) : finiteCount ≤ nearest (digits * 10 ^ exponent) 1 := by
  have hpow : 2 ^ 1024 ≤ digits * 10 ^ exponent :=
    calc 2 ^ 1024 ≤ 10 ^ 400 := by decide +kernel
      _ ≤ 10 ^ exponent := Nat.pow_le_pow_right (by decide) h
      _ ≤ digits * 10 ^ exponent := Nat.le_mul_of_pos_left _ (Nat.pos_of_ne_zero hdigits)
  rw [finiteCount_le_nearest Nat.one_pos]
  calc (2 ^ 54 - 1) * (1 * 2 ^ 2044) ≤ 2 ^ 54 * 2 ^ 2044 := by
        rw [Nat.one_mul]
        exact Nat.mul_le_mul_right _ (Nat.sub_le _ _)
    _ = 2 ^ 1024 * 2 ^ 1074 := by rw [← Nat.pow_add, ← Nat.pow_add]
    _ ≤ digits * 10 ^ exponent * unitsPerOne := Nat.mul_le_mul_right _ hpow

/-- A power of ten that is small enough makes the digits vanish. -/
theorem nearest_eq_zero_of_small {digits exponent : Nat}
    (h : digits.log2 + 1 + 330 ≤ exponent) : nearest digits (10 ^ exponent) = 0 := by
  refine nearest_eq_zero ?_
  calc 2 * (digits * unitsPerOne) = digits * 2 ^ 1075 := by
        rw [unitsPerOne, Nat.mul_left_comm, ← Nat.pow_succ']
    _ < 2 ^ (digits.log2 + 1) * 2 ^ 1075 :=
        Nat.mul_lt_mul_of_pos_right Nat.lt_log2_self (Nat.two_pow_pos _)
    _ ≤ 10 ^ (digits.log2 + 1) * 10 ^ 330 :=
        Nat.mul_le_mul (Nat.pow_le_pow_left (by decide) _) (by decide +kernel)
    _ = 10 ^ (digits.log2 + 1 + 330) := by rw [← Nat.pow_add]
    _ ≤ 10 ^ exponent := Nat.pow_le_pow_right (by decide) h

theorem ofOrdinal_eq_infinity {negative : Bool} {ordinal : Nat} (h : finiteCount ≤ ordinal) :
    ofOrdinal negative ordinal = .infinity negative :=
  dif_neg (Nat.not_lt.mpr h)

/-- **A decimal is read as the number nearest to it.** -/
theorem ofDecimal_eq (negative : Bool) (digits : Nat) (exponent : Int) :
    ofDecimal negative digits exponent =
      ofOrdinal negative (nearestDecimal ⟨digits, exponent⟩) := by
  unfold ofDecimal nearestDecimal
  dsimp only
  by_cases hzero : digits = 0
  · rw [if_pos hzero, hzero, Nat.zero_mul, nearest_zero]
    rfl
  · rw [if_neg hzero]
    by_cases hwhole : 0 ≤ exponent
    · have hden : (-exponent).toNat = 0 := by omega
      rw [hden, Nat.pow_zero]
      by_cases hgreat : 400 ≤ exponent
      · have hbeyond := finiteCount_le_nearest_of_great hzero (show 400 ≤ exponent.toNat by omega)
        rw [if_pos hgreat, ofOrdinal_eq_infinity hbeyond]
      · rw [if_neg hgreat, if_neg (by omega), if_pos hwhole, ofRatio]
    · have hnum : exponent.toNat = 0 := by omega
      rw [hnum, Nat.pow_zero, Nat.mul_one, if_neg (by omega)]
      by_cases hsmall : exponent + (digits.log2 + 1) ≤ -330
      · rw [if_pos hsmall, nearest_eq_zero_of_small (by omega)]
        rfl
      · rw [if_neg hsmall, if_neg hwhole, ofRatio]

end RowShell.Binary64
