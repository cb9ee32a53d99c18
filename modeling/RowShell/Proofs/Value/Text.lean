/-
Values without a text or a number.

A value has a text unless a whole number somewhere in it has too many digits for a
numeral.  Nothing else keeps it from being displayed, inspected or stored.  It counts as a
number, or as none, unless it is itself a whole number beyond the range of binary64
numbers: what is read from a text may be infinite, but never fails.
-/
import RowShell.Proofs.Number.Range
import RowShell.Proofs.Outcome
import RowShell.Value.Reading

namespace RowShell

open Outcome

/-- What is made of the number of a run of digits fails only if there are too many. -/
theorem Numeral.fails_digits {α : Type} {digits : List Char} {f : Nat → α} :
    Fails (match value? digits with
      | some n => .ok (f n)
      | none => .error .longNumeral) ↔ maxDigits < digits.length := by
  unfold value?
  by_cases hshort : digits.length ≤ maxDigits
  · rw [if_pos hshort]
    exact iff_of_false (not_fails_ok _) (Nat.not_lt.mpr hshort)
  · rw [if_neg hshort]
    exact iff_of_true (fails_error _) (Nat.lt_of_not_le hshort)

namespace Value

mutual

/-- A whole number in the value is too long for a numeral. -/
def HoldsLong : Value → Prop
  | .int n => Numeral.IsLong n
  | .list items => ItemsHoldLong items
  | .map entries => EntriesHoldLong entries
  | _ => False

def ItemsHoldLong : List Value → Prop
  | [] => False
  | item :: rest => item.HoldsLong ∨ ItemsHoldLong rest

def EntriesHoldLong : List (String × Value) → Prop
  | [] => False
  | (_, value) :: rest => value.HoldsLong ∨ EntriesHoldLong rest

end

/-! ### Text -/

theorem fails_numeral {n : Int} : Fails (numeral n) ↔ Numeral.IsLong n := by
  unfold numeral Numeral.text?
  by_cases h : Numeral.IsLong n
  · rw [if_pos h]
    exact iff_of_true (fails_error _) h
  · rw [if_neg h]
    exact iff_of_false (not_fails_ok _) h

theorem numeral_eq_ok {n : Int} {s : String} :
    numeral n = .ok s ↔ ¬ Numeral.IsLong n ∧ s = String.ofList (Numeral.ofInt n) := by
  unfold numeral Numeral.text?
  by_cases h : Numeral.IsLong n
  · rw [if_pos h]
    exact iff_of_false nofun fun h' => h'.1 h
  · rw [if_neg h, and_iff_right h]
    constructor
    · intro heq
      cases heq
      rfl
    · intro heq
      rw [heq]

mutual

theorem fails_inspect : ∀ {value : Value}, Fails value.inspect ↔ value.HoldsLong
  | .int n => by
      rw [inspect, HoldsLong]
      exact fails_numeral
  | .list items => by
      rw [inspect, HoldsLong]
      exact fails_bind_ok.trans fails_inspectItems
  | .map entries => by
      rw [inspect, HoldsLong]
      exact fails_bind_ok.trans fails_inspectEntries
  | .null | .bool _ | .float _ | .text _ | .bytes _ | .timestamp _ | .date _ => by
      simp [inspect, HoldsLong]

theorem fails_inspectItems : ∀ {items : List Value},
    Fails (inspectItems items) ↔ ItemsHoldLong items
  | [] => by simp [inspectItems, ItemsHoldLong]
  | item :: rest => by
      rw [inspectItems, ItemsHoldLong, fails_both, fails_inspect, fails_inspectItems]

theorem fails_inspectEntries : ∀ {entries : List (String × Value)},
    Fails (inspectEntries entries) ↔ EntriesHoldLong entries
  | [] => by simp [inspectEntries, EntriesHoldLong]
  | (key, value) :: rest => by
      rw [inspectEntries, EntriesHoldLong, fails_both, fails_inspect, fails_inspectEntries]

end

/-- **A value has a text unless it holds a whole number that is too long.** -/
theorem fails_display {value : Value} : Fails value.display ↔ value.HoldsLong := by
  cases value with
  | text s => exact iff_of_false (not_fails_ok _) id
  | timestamp t => exact iff_of_false (not_fails_ok _) id
  | date d => exact iff_of_false (not_fails_ok _) id
  | _ => exact fails_inspect

theorem fails_storedText {value : Value} : Fails value.storedText ↔ value.HoldsLong := by
  cases value with
  | bytes data => exact iff_of_false (not_fails_ok _) id
  | bool b => exact iff_of_false (not_fails_ok _) id
  | float x => exact iff_of_false (not_fails_ok _) id
  | _ =>
      unfold storedText numberText
      exact fails_display

/-! ### Numbers -/

theorem fails_binary64 {n : Int} : Fails (binary64 n) ↔ Binary64.IsBeyond n := by
  rw [← Binary64.ofInt?_eq_none]
  unfold binary64
  cases Binary64.ofInt? n with
  | none => exact iff_of_true (fails_error _) rfl
  | some x => exact iff_of_false (not_fails_ok _) nofun

/-- **A value counts as a number, or as none, unless it is an integer beyond the range of
binary64 numbers.** -/
theorem fails_leadingFloat? {value : Value} :
    Fails value.leadingFloat? ↔ ∃ n, value = .int n ∧ Binary64.IsBeyond n := by
  have displayed : Fails (do let text ← value.display; pure (Leading.float? text)) ↔
      value.HoldsLong := fails_bind_ok.trans fails_display
  unfold leadingFloat?
  cases value with
  | int n =>
      rw [fails_map, fails_binary64]
      constructor
      · intro h
        exact ⟨n, rfl, h⟩
      · intro h
        obtain ⟨m, heq, h⟩ := h
        cases heq
        exact h
  | float x => exact iff_of_false (not_fails_ok _) nofun
  | null => exact iff_of_false (not_fails_ok _) nofun
  | list items => exact iff_of_false (not_fails_ok _) nofun
  | map entries => exact iff_of_false (not_fails_ok _) nofun
  | _ => exact iff_of_false (fun h => displayed.mp h) nofun

/-! ### Which fault it is -/

theorem onlyFault_numeral (n : Int) : OnlyFault .longNumeral (numeral n) := by
  unfold numeral
  split
  · exact onlyFault_ok _ _
  · exact onlyFault_error _

mutual

theorem onlyFault_inspect : ∀ value : Value, OnlyFault .longNumeral value.inspect
  | .int n => onlyFault_numeral n
  | .list items => by
      rw [inspect]
      exact onlyFault_bind (onlyFault_inspectItems items) fun _ => onlyFault_ok _ _
  | .map entries => by
      rw [inspect]
      exact onlyFault_bind (onlyFault_inspectEntries entries) fun _ => onlyFault_ok _ _
  | .null | .bool _ | .float _ | .text _ | .bytes _ | .timestamp _ | .date _ => by
      simp [inspect]

theorem onlyFault_inspectItems : ∀ items : List Value,
    OnlyFault .longNumeral (inspectItems items)
  | [] => onlyFault_ok _ []
  | item :: rest => by
      rw [inspectItems]
      exact onlyFault_bind (onlyFault_inspect item) fun _ =>
        onlyFault_bind (onlyFault_inspectItems rest) fun _ => onlyFault_ok _ _

theorem onlyFault_inspectEntries : ∀ entries : List (String × Value),
    OnlyFault .longNumeral (inspectEntries entries)
  | [] => onlyFault_ok _ []
  | (key, value) :: rest => by
      rw [inspectEntries]
      exact onlyFault_bind (onlyFault_inspect value) fun _ =>
        onlyFault_bind (onlyFault_inspectEntries rest) fun _ => onlyFault_ok _ _

end

theorem onlyFault_display (value : Value) : OnlyFault .longNumeral value.display := by
  cases value with
  | text s => exact onlyFault_ok _ _
  | timestamp t => exact onlyFault_ok _ _
  | date d => exact onlyFault_ok _ _
  | _ => exact onlyFault_inspect _

theorem onlyFault_storedText (value : Value) : OnlyFault .longNumeral value.storedText := by
  cases value with
  | bytes data => exact onlyFault_ok _ _
  | bool b => exact onlyFault_ok _ _
  | float x => exact onlyFault_ok _ _
  | _ =>
      unfold storedText numberText
      exact onlyFault_display _

theorem onlyFault_leadingFloat? (value : Value) :
    OnlyFault .beyondBinary64 value.leadingFloat? := by
  intro other h
  obtain ⟨n, rfl, -⟩ := fails_leadingFloat?.mp ⟨other, h⟩
  have hbinary : OnlyFault .beyondBinary64 (binary64 n) := by
    unfold binary64
    cases Binary64.ofInt? n with
    | none => exact onlyFault_error _
    | some x => exact onlyFault_ok _ _
  rw [leadingFloat?] at h
  exact onlyFault_map hbinary other h

end Value

end RowShell
