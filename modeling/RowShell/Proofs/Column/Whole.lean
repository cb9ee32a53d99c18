/-
Whole numbers written alike.

A whole number may be given as an integer or as the binary64 number that equals it.  The kinds
take different ways through every category: an integer is written as it stands or converted to
binary64 first, a binary64 number is cut to its whole part or written without a fraction, and zero
may have a sign.  Up to `10 ^ 21` all of them end at the same literal, `integerLiteral`.

So neither the rows that a filter selects nor what is stored for a record hang on the kind in
which its numbers are given; the log may differ, where a warning shows the value.
-/
import RowShell.Proofs.Column.Literal
import RowShell.Proofs.Number.Exact
import RowShell.Proofs.Time.Epoch
import RowShell.Proofs.Value.Text

namespace RowShell

open Outcome

namespace Binary64

variable {x : Binary64} {n : Int}

theorem trunc?_of_toInt? (h : x.toInt? = some n) : x.trunc? = some n := by
  obtain ⟨negative, ordinal, rfl, -, rfl⟩ := toInt?_eq_some.mp h
  rfl

theorem unitsPerOne_pos : 0 < unitsPerOne := Nat.two_pow_pos _

/-- A number that equals an integer is zero if the integer is. -/
theorem isZero_iff_of_toInt? (h : x.toInt? = some n) : x.isZero = true ↔ n = 0 := by
  obtain ⟨negative, ordinal, rfl, hwhole, rfl⟩ := toInt?_eq_some.mp h
  have hsigned : Numeral.signed negative (units ordinal / unitsPerOne) = 0 ↔
      units ordinal / unitsPerOne = 0 := by
    unfold Numeral.signed
    split <;> omega
  have hunits : units ordinal / unitsPerOne = 0 ↔ units ordinal = 0 := by
    rw [Nat.div_eq_zero_iff_lt unitsPerOne_pos]
    constructor
    · intro hless
      rwa [Nat.mod_eq_of_lt hless] at hwhole
    · intro hzero
      rw [hzero]
      exact unitsPerOne_pos
  rw [hsigned, hunits, isZero, beq_iff_eq]
  constructor
  · intro hzero
    rw [hzero]
    rfl
  · intro hzero
    by_contra hne
    exact units_ne_zero hne hzero

end Binary64

namespace Column

variable {x : Binary64} {n : Int}

/-- The literal of an integer that a binary64 number may equal. -/
def integerLiteral (column : Column) (n : Int) : String :=
  let numeral := String.ofList (Numeral.ofInt n)
  match column.category with
  | .string => Literal.quote (column.truncated numeral)
  | .numeric | .typeless | .int | .real => numeral
  | .boolean => if n = 0 then "0" else "1"
  | .datetime =>
    if Timestamp.leastEpochMillis ≤ n ∧ n ≤ Timestamp.greatestEpochMillis then numeral
    else Literal.null
  | .blob | .unclassified => Literal.null

/-- An integer as milliseconds is written as it stands, or as null outside the calendar. -/
theorem literal_of_ofEpochMillis? {value : Value}
    (hread : value.timestamp? = Timestamp.ofEpochMillis? n) {shown : String}
    (hshown : value.inspect = .ok shown) (hn : ¬ Numeral.IsLong n) :
    (match value.timestamp? with
      | some t => timestampLiteral t
      | none => value.inspect.map fun _ => Literal.null) =
    .ok (if Timestamp.leastEpochMillis ≤ n ∧ n ≤ Timestamp.greatestEpochMillis then
      String.ofList (Numeral.ofInt n) else Literal.null) := by
  rw [hread, hshown]
  have hrange : (∃ t, Timestamp.ofEpochMillis? n = some t) ↔ _ :=
    Timestamp.exists_ofEpochMillis?_iff
  cases hmillis : Timestamp.ofEpochMillis? n with
  | none =>
      have hout : ¬ (Timestamp.leastEpochMillis ≤ n ∧ n ≤ Timestamp.greatestEpochMillis) := by
        intro hin
        obtain ⟨t, ht⟩ := hrange.mpr hin
        rw [hmillis] at ht
        contradiction
      rw [if_neg hout]
      rfl
  | some t =>
      have hcount := (Timestamp.epochMillis?_of_ofEpochMillis? hmillis).2
      rw [if_pos (hrange.mp ⟨t, hmillis⟩)]
      show timestampLiteral t = _
      rw [timestampLiteral, hcount]
      exact Value.numeral_eq_ok.mpr ⟨hn, rfl⟩

theorem outcome_literal_int (column : Column) (hx : x.toInt? = some n) (hn : n.natAbs < 10 ^ 21) :
    (column.literal (.int n)).outcome = .ok (column.integerLiteral n) := by
  have hshort := Binary64.not_isLong_of_natAbs_lt hn
  have hnumeral : Value.numeral n = .ok (String.ofList (Numeral.ofInt n)) :=
    Value.numeral_eq_ok.mpr ⟨hshort, rfl⟩
  rw [outcome_literal column (by nofun), integerLiteral]
  cases column.category with
  | string =>
      show (Value.numeral n).map _ = _
      rw [hnumeral]
      rfl
  | numeric => exact hnumeral
  | typeless => exact hnumeral
  | int => exact hnumeral
  | real =>
      obtain ⟨y, hy, hequal⟩ := Binary64.ofInt?_of_toInt? hx
      have hfloat : (Value.int n).leadingFloat? = .ok (some y) := by
        show (Value.binary64 n).map some = _
        rw [Value.binary64, hy]
        rfl
      show ((Value.int n).leadingFloat?).map Literal.ofBinary64? = _
      rw [hfloat]
      show Except.ok (Literal.ofBinary64 y) = _
      rw [Literal.ofBinary64, if_pos (Binary64.isFinite_of_toInt? hequal),
        Binary64.numberText_of_toInt? hequal hn]
  | blob => rfl
  | boolean =>
      show Except.ok (if (n != 0) = true then "1" else "0") = .ok (if n = 0 then "0" else "1")
      by_cases hzero : n = 0 <;> simp [hzero]
  | datetime => exact literal_of_ofEpochMillis? rfl hnumeral hshort
  | unclassified =>
      show (Value.numeral n).map _ = _
      rw [hnumeral]
      rfl

theorem outcome_literal_float (column : Column) (hx : x.toInt? = some n)
    (hn : n.natAbs < 10 ^ 21) :
    (column.literal (.float x)).outcome = .ok (column.integerLiteral n) := by
  have hshort := Binary64.not_isLong_of_natAbs_lt hn
  have htext := Binary64.numberText_of_toInt? hx hn
  have hfloat : Literal.ofBinary64 x = String.ofList (Numeral.ofInt n) := by
    rw [Literal.ofBinary64, if_pos (Binary64.isFinite_of_toInt? hx), htext]
  rw [outcome_literal column (by nofun), integerLiteral]
  cases column.category with
  | string =>
      show Except.ok (Literal.quote (column.truncated x.numberText)) = _
      rw [htext]
  | numeric => exact congrArg Except.ok hfloat
  | typeless => exact congrArg Except.ok hfloat
  | int =>
      show wholeLiteral (.float x) = _
      rw [wholeLiteral, Binary64.trunc?_of_toInt? hx]
      exact Value.numeral_eq_ok.mpr ⟨hshort, rfl⟩
  | real => exact congrArg Except.ok hfloat
  | blob => rfl
  | boolean =>
      show Except.ok (if (!x.isZero) = true then "1" else "0") = .ok (if n = 0 then "0" else "1")
      have hzero := Binary64.isZero_iff_of_toInt? hx
      by_cases hn0 : n = 0
      · rw [hzero.mpr hn0, if_pos hn0]
        rfl
      · rw [Bool.eq_false_iff.mpr (mt hzero.mp hn0), if_neg hn0]
        rfl
  | datetime =>
      refine literal_of_ofEpochMillis? ?_ rfl hshort
      show x.trunc?.bind Timestamp.ofEpochMillis? = _
      rw [Binary64.trunc?_of_toInt? hx, Option.bind_some]
  | unclassified => rfl

end Column

end RowShell
