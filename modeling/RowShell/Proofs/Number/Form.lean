/-
The form of numbers in SQL.

A number is written without quotes, so nothing but its own form keeps it from running
into the text around it.  The form is that of SQL: a sign, digits, a fraction and an
exponent, of which only the digits have to be there.  `isNumber_ofInt` and
`isNumber_numberText` say that integers and finite binary64 numbers are written so.

A binary64 number is laid out from the digits of its shortest decimal.  All that has to
be known of those is that there is one: a decimal of a magnitude other than zero has a
digit other than zero, so it keeps a digit when the zeros at its end are dropped.
-/
import Mathlib.Data.List.TakeWhile
import Mathlib.Tactic.ByContra
import Mathlib.Tactic.Positivity
import RowShell.Value.Reading

namespace RowShell

namespace Numeral

/-- One digit or more. -/
def IsDigits (cs : List Char) : Prop := cs ≠ [] ∧ ∀ c ∈ cs, Text.isAsciiDigit c = true

/-- Nothing, or a point and digits. -/
def IsFraction (cs : List Char) : Prop := cs = [] ∨ ∃ digits, IsDigits digits ∧ cs = '.' :: digits

/-- Nothing, or an exponent with its sign. -/
def IsExponent (cs : List Char) : Prop :=
  cs = [] ∨ ∃ sign digits, (sign = '+' ∨ sign = '-') ∧ IsDigits digits ∧ cs = 'e' :: sign :: digits

/-- A number without a sign: `[0-9]+(.[0-9]+)?(e[+-][0-9]+)?`. -/
def IsUnsigned (cs : List Char) : Prop :=
  ∃ whole fraction exponent, IsDigits whole ∧ IsFraction fraction ∧ IsExponent exponent ∧
    cs = whole ++ fraction ++ exponent

/-- A number, with a minus sign if it is negative. -/
def IsNumber (cs : List Char) : Prop := IsUnsigned cs ∨ ∃ rest, IsUnsigned rest ∧ cs = '-' :: rest

theorem IsDigits.append {cs ds : List Char} (h : IsDigits cs)
    (hd : ∀ c ∈ ds, Text.isAsciiDigit c = true) : IsDigits (cs ++ ds) := by
  refine ⟨by simp [h.1], ?_⟩
  intro c hc
  rcases List.mem_append.mp hc with hc | hc
  · exact h.2 c hc
  · exact hd c hc

theorem IsDigits.append_left {cs ds : List Char} (h : IsDigits ds)
    (hc : ∀ c ∈ cs, Text.isAsciiDigit c = true) : IsDigits (cs ++ ds) := by
  refine ⟨by simp [h.1], ?_⟩
  intro c hmem
  rcases List.mem_append.mp hmem with hmem | hmem
  · exact hc c hmem
  · exact h.2 c hmem

theorem IsDigits.take {cs : List Char} (h : IsDigits cs) {n : Nat} (hn : 0 < n) :
    IsDigits (cs.take n) := by
  refine ⟨?_, fun c hc => h.2 c (List.mem_of_mem_take hc)⟩
  rw [Ne, List.take_eq_nil_iff]
  intro h
  rcases h with rfl | rfl
  · exact Nat.lt_irrefl 0 hn
  · exact h.1 rfl

theorem IsDigits.drop {cs : List Char} (h : IsDigits cs) {n : Nat} (hn : n < cs.length) :
    IsDigits (cs.drop n) := by
  refine ⟨?_, fun c hc => h.2 c (List.mem_of_mem_drop hc)⟩
  rw [Ne, List.drop_eq_nil_iff]
  omega

theorem IsDigits.isUnsigned {cs : List Char} (h : IsDigits cs) : IsUnsigned cs :=
  ⟨cs, [], [], h, .inl rfl, .inl rfl, by simp⟩

theorem IsDigits.isFraction {cs : List Char} (h : IsDigits cs) : IsFraction ('.' :: cs) :=
  .inr ⟨cs, h, rfl⟩

/-- The characters of numbers. -/
def isNumberChar (c : Char) : Bool := Text.isAsciiDigit c || ['-', '+', '.', 'e'].contains c

theorem IsDigits.isNumberChar {cs : List Char} (h : IsDigits cs) :
    ∀ c ∈ cs, isNumberChar c = true := by
  intro c hc
  rw [Numeral.isNumberChar, h.2 c hc, Bool.true_or]

theorem IsUnsigned.isNumberChar {cs : List Char} (h : IsUnsigned cs) :
    ∀ c ∈ cs, isNumberChar c = true := by
  obtain ⟨whole, fraction, exponent, hwhole, hfraction, hexponent, rfl⟩ := h
  have hf : ∀ c ∈ fraction, Numeral.isNumberChar c = true := by
    rcases hfraction with rfl | ⟨digits, hdigits, rfl⟩
    · simp
    · exact List.forall_mem_cons.mpr ⟨by decide, hdigits.isNumberChar⟩
  have he : ∀ c ∈ exponent, Numeral.isNumberChar c = true := by
    rcases hexponent with rfl | ⟨sign, digits, hsign, hdigits, rfl⟩
    · simp
    · refine List.forall_mem_cons.mpr ⟨by decide, List.forall_mem_cons.mpr ⟨?_, hdigits.isNumberChar⟩⟩
      rcases hsign with rfl | rfl <;> decide
  intro c hc
  rcases List.mem_append.mp hc with hc | hc
  · rcases List.mem_append.mp hc with hc | hc
    · exact hwhole.isNumberChar c hc
    · exact hf c hc
  · exact he c hc

theorem IsNumber.isNumberChar {cs : List Char} (h : IsNumber cs) :
    ∀ c ∈ cs, isNumberChar c = true := by
  rcases h with h | ⟨rest, h, rfl⟩
  · exact h.isNumberChar
  · exact List.forall_mem_cons.mpr ⟨by decide, h.isNumberChar⟩

theorem IsUnsigned.ne_nil {cs : List Char} (h : IsUnsigned cs) : cs ≠ [] := by
  obtain ⟨whole, fraction, exponent, hwhole, -, -, rfl⟩ := h
  simp [hwhole.1]

theorem IsNumber.ne_nil {cs : List Char} (h : IsNumber cs) : cs ≠ [] := by
  rcases h with h | ⟨rest, -, rfl⟩
  · exact h.ne_nil
  · exact List.cons_ne_nil _ _

/-! ### Integers -/

theorem isDigits_ofNat (n : Nat) : IsDigits (ofNat n) := by
  refine ⟨Nat.toDigits_ne_nil, ?_⟩
  intro c hc
  have h : c.isDigit = true := Nat.isDigit_of_mem_toDigits (by decide) (by decide) hc
  simp only [Char.isDigit, Bool.and_eq_true, decide_eq_true_eq, ge_iff_le,
    UInt32.le_iff_toNat_le] at h
  simp only [Text.isAsciiDigit, Bool.and_eq_true, decide_eq_true_eq]
  exact h

/-- A number other than zero has a digit other than zero. -/
theorem exists_digit_ne_zero {n : Nat} (hn : n ≠ 0) : ∃ c ∈ ofNat n, c ≠ '0' := by
  by_contra hall
  have hzeros : ofNat n = List.replicate (ofNat n).length '0' := by
    refine List.eq_replicate_of_mem ?_
    intro c hc
    by_contra hne
    exact hall ⟨c, hc, hne⟩
  have hvalue : ∀ k, Nat.ofDigitChars 10 (List.replicate k '0') 0 = 0 := by
    intro k
    induction k with
    | zero => rfl
    | succ k ih =>
        rw [List.replicate_succ, Nat.ofDigitChars_cons]
        exact ih
  have hn' : Nat.ofDigitChars 10 (ofNat n) 0 = n := Nat.ofDigitChars_ten_toDigits
  rw [hzeros, hvalue] at hn'
  exact hn hn'.symm

theorem isNumber_ofInt (n : Int) : IsNumber (ofInt n) := by
  cases n with
  | ofNat n => exact .inl (isDigits_ofNat n).isUnsigned
  | negSucc n => exact .inr ⟨_, (isDigits_ofNat (n + 1)).isUnsigned, rfl⟩

end Numeral

namespace Binary64

open Numeral

/-! ### The digits of a magnitude -/

/-- Zero is nearest to the ordinal zero only. -/
theorem nearest_zero (den : Nat) : nearest 0 den = 0 := by
  simp only [nearest, Nat.zero_mul, Nat.zero_div, Nat.zero_mod, Nat.log2_zero]
  simp

theorem units_ne_zero {ordinal : Nat} (h : ordinal ≠ 0) : units ordinal ≠ 0 := by
  unfold units
  split
  · exact h
  · exact Nat.mul_ne_zero (by omega) (by positivity)

/-- What `neighbour?` takes reads back as the ordinal. -/
theorem nearestDecimal_of_neighbour? {ordinal count : Nat} {d : Decimal}
    (h : neighbour? ordinal count = some d) : nearestDecimal d = ordinal := by
  simp only [neighbour?] at h
  split at h
  · next hbelow =>
      rw [Bool.and_eq_true] at hbelow
      cases h
      simpa using hbelow.1
  · split at h
    · next habove =>
        cases h
        simpa using habove
    · cases h

theorem shortest_digits_ne_zero {ordinal : Nat} (h : ordinal ≠ 0) :
    (shortest ordinal).digits ≠ 0 := by
  unfold shortest
  cases hfind : (List.range 17).findSome? fun n => neighbour? ordinal (n + 1) with
  | none => exact Nat.mul_ne_zero (units_ne_zero h) (by positivity)
  | some d =>
      obtain ⟨n, -, hn⟩ := List.exists_of_findSome?_eq_some hfind
      intro hzero
      have hback := nearestDecimal_of_neighbour? hn
      rw [nearestDecimal, show d.digits = 0 from hzero, Nat.zero_mul, nearest_zero] at hback
      exact h hback.symm

/-- Dropping the zeros at the end of a decimal leaves digits. -/
theorem isDigits_significantDigits {d : Decimal} (h : d.digits ≠ 0) :
    IsDigits (significantDigits d) := by
  obtain ⟨c, hc, hne⟩ := exists_digit_ne_zero h
  refine ⟨?_, ?_⟩
  · intro hnil
    rw [significantDigits, List.reverse_eq_nil_iff] at hnil
    have hall := List.dropWhile_eq_nil_iff.mp hnil
    exact hne (by simpa using hall c (by simpa using hc))
  · intro x hx
    have hmem : x ∈ (ofNat d.digits).reverse :=
      (List.dropWhile_sublist _).subset (by simpa [significantDigits] using hx)
    exact (isDigits_ofNat d.digits).2 x (by simpa using hmem)

/-! ### Layouts of digits -/

theorem isAsciiDigit_of_mem_replicate (n : Nat) :
    ∀ c ∈ List.replicate n '0', Text.isAsciiDigit c = true := by
  intro c hc
  rw [List.eq_of_mem_replicate hc]
  rfl

theorem isDigits_zero : IsDigits ['0'] := ⟨by simp, List.all_eq_true.mp (by decide)⟩

theorem isUnsigned_positional {digits : List Char} (h : IsDigits digits) (whole : Int) :
    IsUnsigned (positional digits whole) := by
  unfold positional
  split
  · exact ⟨['0'], _, [], isDigits_zero,
      (h.append_left (isAsciiDigit_of_mem_replicate (-whole).toNat)).isFraction, .inl rfl, by simp⟩
  · next hpos =>
      simp only
      split
      · have hwhole := h.append (isAsciiDigit_of_mem_replicate (whole.toNat - digits.length))
        exact ⟨_, ['.', '0'], [], hwhole, isDigits_zero.isFraction, .inl rfl, by simp⟩
      · next hlong =>
          have hdrop := h.drop (show whole.toNat < digits.length by omega)
          exact ⟨_, _, [], h.take (show 0 < whole.toNat by omega), hdrop.isFraction, .inl rfl,
            by simp⟩

theorem isExponent_exponentText (exponent : Int) : IsExponent ('e' :: exponentText exponent) := by
  refine .inr ⟨if exponent < 0 then '-' else '+', _, ?_,
    (isDigits_ofNat exponent.natAbs).append_left (isAsciiDigit_of_mem_replicate _), rfl⟩
  split
  · exact .inr rfl
  · exact .inl rfl

theorem isUnsigned_scientific {digits : List Char} (h : IsDigits digits) (exponent : Int) :
    IsUnsigned (scientific digits exponent) := by
  refine ⟨_, _, _, h.take Nat.one_pos, ?_, isExponent_exponentText exponent, rfl⟩
  split
  · exact .inl rfl
  · exact (h.drop (by omega)).isFraction

theorem isUnsigned_magnitudeText (ordinal : Nat) : IsUnsigned (magnitudeText ordinal) := by
  unfold magnitudeText
  split
  · exact ⟨['0'], ['.', '0'], [], isDigits_zero, isDigits_zero.isFraction, .inl rfl, rfl⟩
  · next hzero =>
      have hdigits := isDigits_significantDigits (shortest_digits_ne_zero hzero)
      simp only
      split
      · exact isUnsigned_positional hdigits _
      · exact isUnsigned_scientific hdigits _

/-! ### Binary64 numbers -/

theorem isNumber_display_finite (negative : Bool) (ordinal : Fin finiteCount) :
    IsNumber (display (.finite negative ordinal)).toList := by
  rw [display, String.toList_ofList]
  cases negative with
  | false => exact .inl (isUnsigned_magnitudeText ordinal)
  | true => exact .inr ⟨_, isUnsigned_magnitudeText ordinal, rfl⟩

/-- **The text of a finite number is a number of SQL.** -/
theorem isNumber_numberText {x : Binary64} (h : x.isFinite = true) :
    IsNumber x.numberText.toList := by
  cases x with
  | nan => cases h
  | infinity negative => cases h
  | finite negative ordinal =>
      simp only [numberText]
      split
      · split
        · rw [String.toList_ofList]
          exact isNumber_ofInt _
        · exact isNumber_display_finite negative ordinal
      · exact isNumber_display_finite negative ordinal

end Binary64

end RowShell
