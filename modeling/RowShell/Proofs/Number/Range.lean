/-
The range of binary64 numbers.

The finite numbers end below `2 ^ 1024`, so the whole part of a number has far fewer digits
than a numeral may have.  A ratio is beyond them when it is no nearer to the greatest of
them than to `2 ^ 1024`, which would come next: from `2 ^ 1024 - 2 ^ 970` on.  The middle
itself is beyond, since the greatest finite number has an odd ordinal.
-/
import Mathlib.Tactic.Positivity
import RowShell.Number.Binary64
import RowShell.Number.Numeral

namespace RowShell

namespace Numeral

/-- Far less than the longest numeral can hold. -/
theorem not_isLong_of_lt {n : Int} {k : Nat} (hk : k ≤ maxDigits) (h : n.natAbs < 2 ^ k) :
    ¬ IsLong n := by
  have hpow : 2 ^ k ≤ 10 ^ maxDigits :=
    (Nat.pow_le_pow_left (by decide) k).trans (Nat.pow_le_pow_right (by decide) hk)
  exact Nat.not_le_of_lt (Nat.lt_of_lt_of_le h hpow)

end Numeral

namespace Binary64

theorem units_lt {ordinal : Nat} (h : ordinal < finiteCount) : units ordinal < 2 ^ 2098 := by
  unfold units
  split
  · next hsmall => exact Nat.lt_trans hsmall (Nat.pow_lt_pow_right (by decide) (by decide))
  · have hmantissa : 2 ^ 52 + ordinal % 2 ^ 52 < 2 ^ 53 := by omega
    have hexponent : ordinal / 2 ^ 52 - 1 ≤ 2045 := by
      have : ordinal / 2 ^ 52 < 2047 := Nat.div_lt_of_lt_mul (by rw [Nat.mul_comm]; exact h)
      omega
    calc (2 ^ 52 + ordinal % 2 ^ 52) * 2 ^ (ordinal / 2 ^ 52 - 1)
        < 2 ^ 53 * 2 ^ 2045 := Nat.mul_lt_mul_of_lt_of_le hmantissa
          (Nat.pow_le_pow_right (by decide) hexponent) (Nat.two_pow_pos _)
      _ = 2 ^ 2098 := by rw [← Nat.pow_add]

/-- The whole part of a number is that of a finite one. -/
theorem trunc?_lt {x : Binary64} {n : Int} (h : x.trunc? = some n) : n.natAbs < 2 ^ 1024 := by
  cases x with
  | nan => cases h
  | infinity negative => cases h
  | finite negative ordinal =>
      have hwhole : units ordinal.val / unitsPerOne < 2 ^ 1024 := by
        refine Nat.div_lt_of_lt_mul ?_
        rw [unitsPerOne, ← Nat.pow_add]
        exact units_lt ordinal.isLt
      rw [trunc?, Option.some_inj] at h
      rw [← h]
      split
      · rwa [Int.natAbs_neg, Int.natAbs_natCast]
      · rwa [Int.natAbs_natCast]

/-! ### Rounding at the end of the range -/

/-- An integer beyond the range of the finite numbers. -/
def IsBeyond (n : Int) : Prop := 2 ^ 1024 - 2 ^ 970 ≤ n.natAbs

/-- A ratio lies in the run of ordinals that its power of two selects. -/
theorem shift_bounds (quotient : Nat) {shift : Nat} (h : shift = quotient.log2 - 52) :
    quotient < 2 ^ 53 * 2 ^ shift ∧ (shift = 0 ∨ 2 ^ 52 * 2 ^ shift ≤ quotient) := by
  rw [← Nat.pow_add, ← Nat.pow_add]
  constructor
  · calc quotient < 2 ^ (quotient.log2 + 1) := Nat.lt_log2_self
      _ ≤ 2 ^ (53 + shift) := Nat.pow_le_pow_right (by decide) (by omega)
  · by_cases hshift : shift = 0
    · exact .inl hshift
    · refine .inr ?_
      have hexponent : 52 + shift = quotient.log2 := by omega
      have hquotient : quotient ≠ 0 := by
        intro heq
        subst heq
        rw [Nat.log2_zero] at hexponent
        omega
      rw [hexponent]
      exact Nat.log2_self_le hquotient

/-- The ordinal that a ratio is rounded to within a run, against the end of the finite ones.
The run is given by its step, and `middle` is half the step of the last finite run. -/
theorem finiteCount_le_rounded {scaled step middle shift : Nat} (hstep : 0 < step)
    (hhigh : scaled < 2 ^ 53 * step) (hlow : shift = 0 ∨ 2 ^ 52 * step ≤ scaled)
    (hsmall : shift ≤ 2044 → step ≤ middle) (hlast : shift = 2045 → step = 2 * middle)
    (hgreat : 2046 ≤ shift → 4 * middle ≤ step) :
    let below := shift * 2 ^ 52 + scaled / step
    let rest := scaled % step
    2047 * 2 ^ 52 ≤ (if step < 2 * rest || (2 * rest == step && below % 2 == 1) then below + 1
      else below) ↔ (2 ^ 54 - 1) * middle ≤ scaled := by
  dsimp only
  have hdiv := Nat.div_add_mod scaled step
  have hrest := Nat.mod_lt scaled hstep
  generalize scaled / step = whole at hdiv
  generalize scaled % step = rest at hdiv hrest
  have hwhole : whole < 2 ^ 53 := by
    refine Nat.lt_of_mul_lt_mul_left (a := step) ?_
    rw [Nat.mul_comm step (2 ^ 53)]
    omega
  rcases Nat.lt_trichotomy shift 2045 with hshift | hshift | hshift
  · have hle := hsmall (Nat.le_of_lt_succ hshift)
    refine iff_of_false ?_ (by omega)
    split <;> omega
  · have hmiddle := hlast hshift
    by_cases hodd : whole = 2 ^ 53 - 1
    · subst hodd
      -- The greatest finite ordinal is odd, so the middle is rounded up.
      simp only [Bool.or_eq_true, Bool.and_eq_true, decide_eq_true_eq, beq_iff_eq]
      split <;> omega
    · have hmul : step * whole ≤ step * (2 ^ 53 - 2) := Nat.mul_le_mul_left step (by omega)
      refine iff_of_false ?_ (by omega)
      split <;> omega
  · have hle := hgreat hshift
    have hscaled := hlow.resolve_left (by omega)
    have hleast : 2 ^ 52 ≤ whole := by
      refine Nat.le_of_lt_succ (Nat.lt_of_mul_lt_mul_left (a := step) ?_)
      rw [Nat.mul_succ step whole, Nat.mul_comm step (2 ^ 52)]
      omega
    refine iff_of_true ?_ (by omega)
    split <;> omega

/-- **The nearest ordinal is beyond the finite ones from the middle on** between the
greatest finite number and the power of two that would come next. -/
theorem finiteCount_le_nearest {num den : Nat} (hden : 0 < den) :
    finiteCount ≤ nearest num den ↔ (2 ^ 54 - 1) * (den * 2 ^ 2044) ≤ num * unitsPerOne := by
  unfold nearest finiteCount
  dsimp only
  generalize num * unitsPerOne = scaled
  obtain ⟨hhigh, hlow⟩ := shift_bounds (scaled / den) rfl
  generalize (scaled / den).log2 - 52 = shift at hhigh hlow
  rw [Nat.div_lt_iff_lt_mul hden, Nat.mul_assoc, Nat.mul_comm (2 ^ shift)] at hhigh
  rw [Nat.le_div_iff_mul_le hden, Nat.mul_assoc, Nat.mul_comm (2 ^ shift)] at hlow
  have hstep : 0 < den * 2 ^ shift := Nat.mul_pos hden (Nat.two_pow_pos _)
  refine finiteCount_le_rounded hstep hhigh hlow ?_ ?_ ?_
  · intro h
    exact Nat.mul_le_mul_left den (Nat.pow_le_pow_right (by decide) h)
  · intro h
    rw [h, Nat.pow_succ, Nat.mul_comm (2 ^ 2044), Nat.mul_left_comm]
  · intro h
    have hpow : 4 * 2 ^ 2044 ≤ 2 ^ shift := by
      rw [show 4 = 2 ^ 2 from rfl, ← Nat.pow_add]
      exact Nat.pow_le_pow_right (by decide) h
    rw [Nat.mul_left_comm]
    exact Nat.mul_le_mul_left den hpow

theorem finite?_ofOrdinal {negative : Bool} {ordinal : Nat} :
    (ofOrdinal negative ordinal).finite? = none ↔ finiteCount ≤ ordinal := by
  unfold ofOrdinal
  by_cases h : ordinal < finiteCount
  · rw [dif_pos h]
    exact iff_of_false nofun (Nat.not_le_of_lt h)
  · rw [dif_neg h]
    exact iff_of_true rfl (Nat.le_of_not_lt h)

theorem ofInt?_eq_none {n : Int} : ofInt? n = none ↔ IsBeyond n := by
  have hmul : (2 ^ 54 - 1) * (1 * 2 ^ 2044) = (2 ^ 1024 - 2 ^ 970) * 2 ^ 1074 := by
    rw [Nat.one_mul, Nat.sub_mul, Nat.sub_mul, Nat.one_mul, ← Nat.pow_add, ← Nat.pow_add, ← Nat.pow_add]
  unfold ofInt? ofRatio
  rw [finite?_ofOrdinal, finiteCount_le_nearest Nat.one_pos, IsBeyond, unitsPerOne, hmul]
  exact Nat.mul_le_mul_right_iff (Nat.two_pow_pos _)

end Binary64

end RowShell
