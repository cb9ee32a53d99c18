/-
Numbers read from texts.

A text counts as the longest number that it begins with, blanks at its front left aside, and as no
number if it begins with none.  It never fails to be read as a number with a fraction, however many
digits it has; for a column of integers the digits of the longest integer are counted, and more
than 4300 of them are refused.
-/
import RowShell.Column.Decoding
import RowShell.Proofs.Number.Longest

namespace RowShell

open Leading Text
open Numeral (maxDigits signed value value?)

theorem Value.leadingFloat?_text (s : String) :
    (Value.text s).leadingFloat? = .ok (float? s) := rfl

namespace Column

variable {column : Column}

theorem decode_int_text (hcategory : column.category = .int) (s : String) :
    column.decode (.text s) = leadingWhole s := by
  unfold decode
  rw [hcategory]
  rfl

theorem leadingWhole_eq_null {s : String} :
    leadingWhole s = .ok .null ↔ ∀ p, p <+: trimStart s.toList → ¬ IsInteger p := by
  rw [← integerDigits?_eq_none]
  unfold leadingWhole
  cases integerDigits? s.toList with
  | none => exact iff_of_true rfl rfl
  | some integer =>
      refine iff_of_false ?_ nofun
      dsimp only
      split <;> nofun

theorem leadingWhole_eq_int {s : String} {n : Int} :
    leadingWhole s = .ok (.int n) ↔ ∃ p negative digits,
      IsLongest IsInteger (trimStart s.toList) p ∧ SpellsInteger (negative, digits) p ∧
      digits.length ≤ maxDigits ∧ n = signed negative (value digits) := by
  have hread : (∃ negative digits, integerDigits? s.toList = some (negative, digits) ∧
      digits.length ≤ maxDigits ∧ n = signed negative (value digits)) ↔
        leadingWhole s = .ok (.int n) := by
    unfold leadingWhole value?
    cases integerDigits? s.toList with
    | none => simp
    | some integer =>
        obtain ⟨negative, digits⟩ := integer
        by_cases hlength : digits.length ≤ maxDigits
        · simp [hlength, eq_comm]
        · simp [hlength]
  rw [← hread]
  constructor
  · intro h
    obtain ⟨negative, digits, hsome, h⟩ := h
    obtain ⟨p, hlongest, hp⟩ := integerDigits?_eq_some.mp hsome
    exact ⟨p, negative, digits, hlongest, hp, h⟩
  · intro h
    obtain ⟨p, negative, digits, hlongest, hp, h⟩ := h
    exact ⟨negative, digits, integerDigits?_eq_some.mpr ⟨p, hlongest, hp⟩, h⟩

/-- **A text is read as the longest number that it begins with**, and for a column of integers as
the longest integer if that has no more than 4300 digits. -/
theorem reads_longest_number (s : String) :
    (∃ read, (Value.text s).leadingFloat? = .ok read ∧
      (read = none ↔ ∀ p, p <+: trimStart s.toList → ¬ IsNumber p) ∧
      ∀ x, read = some x ↔
        ∃ p, IsLongest IsNumber (trimStart s.toList) p ∧ Spells x p) ∧
    ∀ column : Column, column.category = .int →
      (column.decode (.text s) = .ok .null ↔
        ∀ p, p <+: trimStart s.toList → ¬ IsInteger p) ∧
      ∀ n, column.decode (.text s) = .ok (.int n) ↔ ∃ p negative digits,
        IsLongest IsInteger (trimStart s.toList) p ∧ SpellsInteger (negative, digits) p ∧
        digits.length ≤ 4300 ∧ n = signed negative (value digits) := by
  constructor
  · exact ⟨float? s, Value.leadingFloat?_text s, float?_eq_none, fun _ => float?_eq_some⟩
  · intro column hcategory
    rw [decode_int_text hcategory]
    exact ⟨leadingWhole_eq_null, fun _ => leadingWhole_eq_int⟩

/-- Digits of another script, a point, and an exponent without digits. -/
theorem reads_longest_number_arabic :
    let column : Column := .ofType "n" "int" none
    let cs := trimStart " \u0661\u0662.e+kg".toList
    column.category = .int ∧
      (∃ p, IsLongest IsNumber cs p ∧ Spells (.ofDecimal false 12 0) p) ∧
      ∃ p negative digits, IsLongest IsInteger cs p ∧ SpellsInteger (negative, digits) p ∧
        digits.length ≤ 4300 ∧ 12 = signed negative (value digits) := by
  intro column cs
  have hfloat : float? " \u0661\u0662.e+kg" = some (.ofDecimal false 12 0) := by
    decide +kernel
  have hcategory : column.category = .int := by decide
  obtain ⟨⟨read, hread, -, hsome⟩, hint⟩ := reads_longest_number " \u0661\u0662.e+kg"
  obtain ⟨-, hwhole⟩ := hint column hcategory
  refine ⟨hcategory, (hsome _).mp ?_, (hwhole 12).mp ?_⟩
  · rw [← hfloat]
    exact (Except.ok.inj hread).symm
  · rw [decode_int_text hcategory]
    rfl

end Column

end RowShell
