/-
Values that become null.

A column writes null for null, but also for what it has no other literal for.  Which values
these are depends on the category: `WritesNull` lists them beside the function, and
`literal_eq_null_iff` says that the list is complete.  Text and Booleans always have a literal
of their own, since quoted text is never null and neither are the numerals.
-/
import RowShell.Proofs.Column.Literal
import RowShell.Proofs.Value.Text

namespace RowShell

open Outcome

/-! ### Numbers that are not finite -/

namespace Binary64

theorem isFinite_of_finite? {x y : Binary64} (h : x.finite? = some y) : y.isFinite = true := by
  cases x with
  | finite negative ordinal =>
      cases h
      rfl
  | nan => cases h
  | infinity negative => cases h

theorem trunc?_eq_none {x : Binary64} : x.trunc? = none ↔ x.isFinite = false := by
  cases x with
  | finite negative ordinal => exact iff_of_false nofun nofun
  | nan => exact iff_of_true rfl rfl
  | infinity negative => exact iff_of_true rfl rfl

end Binary64

/-! ### Literals other than null -/

namespace Literal

theorem quote_ne_null (s : String) : quote s ≠ null := by
  intro h
  have hhead := congrArg (fun t : String => t.toList.head?) h
  simp [quote, null] at hhead

/-- A numeral has no letters but that of its exponent. -/
theorem ne_null_of_isNumber {s : String} (h : Numeral.IsNumber s.toList) : s ≠ null := by
  intro heq
  subst heq
  exact absurd (h.isNumberChar 'n' (by decide)) (by decide)

theorem ofBinary64_eq_null {x : Binary64} : ofBinary64 x = null ↔ x.isFinite = false := by
  unfold ofBinary64
  cases hfinite : x.isFinite with
  | false => exact iff_of_true rfl rfl
  | true =>
      rw [if_pos rfl]
      exact iff_of_false (ne_null_of_isNumber (Binary64.isNumber_numberText hfinite)) nofun

end Literal

/-- The value counts as no number, or as one that is not finite. -/
def Value.LacksNumber (value : Value) : Prop :=
  value.leadingFloat? = .ok none ∨ ∃ x, value.leadingFloat? = .ok (some x) ∧ x.isFinite = false

namespace Column

variable {column : Column} {value : Value} {s : String}

/-- The values that a column writes as null: null itself; where numbers are, a number that is
not finite, and in a column of integers or reals also what begins with no number; where dates
are, what is none; and anything in a column that holds binary data or has no known type. -/
def WritesNull (column : Column) (value : Value) : Prop :=
  value = .null ∨ match column.category with
    | .string | .boolean => False
    | .numeric | .typeless => ∃ x, value = .float x ∧ x.isFinite = false
    | .int | .real => value.LacksNumber
    | .blob | .unclassified => True
    | .datetime => value.timestamp? = none

/-! ### Each way of writing -/

theorem numeral_ne_null {n : Int} (h : Value.numeral n = .ok s) : s ≠ Literal.null := by
  obtain ⟨-, rfl⟩ := Value.numeral_eq_ok.mp h
  refine Literal.ne_null_of_isNumber ?_
  rw [String.toList_ofList]
  exact Numeral.isNumber_ofInt n

theorem looseLiteral_eq_null_iff (h : looseLiteral value = .ok s) :
    s = Literal.null ↔ ∃ x, value = .float x ∧ x.isFinite = false := by
  have displayed (hdisplay : (do return Literal.quote (← value.display)) = .ok s) :
      s ≠ Literal.null := by
    obtain ⟨text, -, heq⟩ := bind_eq_ok.mp hdisplay
    cases heq
    exact Literal.quote_ne_null text
  cases value with
  | int n =>
      rw [looseLiteral] at h
      exact iff_of_false (numeral_ne_null h) (by simp)
  | float x =>
      cases h
      rw [Literal.ofBinary64_eq_null]
      simp
  | _ => exact iff_of_false (displayed h) (by simp)

theorem ofBinary64?_eq_null_iff {number? : Option Binary64}
    (h : value.leadingFloat? = .ok number?) :
    Literal.ofBinary64? number? = Literal.null ↔ value.LacksNumber := by
  unfold Value.LacksNumber
  rw [h]
  cases number? with
  | none => exact iff_of_true rfl (.inl rfl)
  | some x =>
      rw [Literal.ofBinary64?, Literal.ofBinary64_eq_null]
      simp

theorem isFinite_of_binary64 {n : Int} {x : Binary64} (h : Value.binary64 n = .ok x) :
    x.isFinite = true := by
  unfold Value.binary64 at h
  cases hfloat : Binary64.ofInt? n with
  | none =>
      rw [hfloat] at h
      cases h
  | some y =>
      rw [hfloat] at h
      cases h
      exact Binary64.isFinite_of_finite? hfloat

/-- An integer counts as a finite number, or its number cannot be written. -/
theorem not_lacksNumber_int (n : Int) : ¬ (Value.int n).LacksNumber := by
  unfold Value.LacksNumber
  rw [Value.leadingFloat?]
  intro h
  rcases h with h | ⟨x, h, hfinite⟩
  · obtain ⟨y, -, heq⟩ := map_eq_ok.mp h
    cases heq
  · obtain ⟨y, hy, heq⟩ := map_eq_ok.mp h
    cases heq
    rw [isFinite_of_binary64 hy] at hfinite
    cases hfinite

theorem wholeLiteral_eq_null_iff (h : wholeLiteral value = .ok s) :
    s = Literal.null ↔ value.LacksNumber := by
  have counted (hcounted : (do return Literal.ofBinary64? (← value.leadingFloat?)) = .ok s) :
      s = Literal.null ↔ value.LacksNumber := by
    obtain ⟨number?, hnumber, heq⟩ := bind_eq_ok.mp hcounted
    cases heq
    exact ofBinary64?_eq_null_iff hnumber
  cases value with
  | int n =>
      rw [wholeLiteral] at h
      exact iff_of_false (numeral_ne_null h) (not_lacksNumber_int n)
  | float x =>
      have hnumber : (Value.float x).leadingFloat? = .ok (some x) := rfl
      rw [← ofBinary64?_eq_null_iff hnumber, Literal.ofBinary64?, Literal.ofBinary64_eq_null,
        ← Binary64.trunc?_eq_none]
      rw [wholeLiteral] at h
      cases htrunc : x.trunc? with
      | none =>
          rw [htrunc] at h
          cases h
          exact iff_of_true rfl rfl
      | some n =>
          rw [htrunc] at h
          exact iff_of_false (numeral_ne_null h) nofun
  | _ => exact counted h

/-- **A column writes null exactly for the values listed.** -/
theorem literal_eq_null_iff (h : (column.literal value).outcome = .ok s) :
    s = Literal.null ↔ column.WritesNull value := by
  by_cases hv : value = .null
  · subst hv
    cases h
    exact iff_of_true rfl (.inl rfl)
  · rw [outcome_literal column hv] at h
    unfold WritesNull
    rw [or_iff_right hv]
    generalize column.category = category at h ⊢
    cases category with
    | string =>
        obtain ⟨text, -, rfl⟩ := map_eq_ok.mp h
        exact iff_of_false (Literal.quote_ne_null _) id
    | numeric => exact looseLiteral_eq_null_iff h
    | typeless => exact looseLiteral_eq_null_iff h
    | int => exact wholeLiteral_eq_null_iff h
    | real =>
        obtain ⟨number?, hnumber, rfl⟩ := map_eq_ok.mp h
        exact ofBinary64?_eq_null_iff hnumber
    | blob =>
        cases h
        exact iff_of_true rfl trivial
    | boolean =>
        cases h
        refine iff_of_false ?_ id
        split <;> decide
    | datetime =>
        dsimp only at h ⊢
        split at h
        · next t ht =>
            unfold timestampLiteral at h
            split at h
            · exact iff_of_false (numeral_ne_null h) (by simp [ht])
            · cases h
        · next ht =>
            obtain ⟨-, -, rfl⟩ := map_eq_ok.mp h
            exact iff_of_true rfl ht
    | unclassified =>
        obtain ⟨-, -, rfl⟩ := map_eq_ok.mp h
        exact iff_of_true rfl trivial

end Column

end RowShell
