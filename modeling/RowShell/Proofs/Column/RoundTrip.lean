/-
Literals and what is read back for them.

A value goes into the database as a literal and comes back as what the shell prints for it.
The two directions are written apart, each by the category of the column, and two results
hold them together.  A value that is read back has the literal under which it was stored, so
storing it again changes nothing, whatever value was stored first.  And the values that are a
category's own are read back as they were.

`Restores` is the first property for one literal.  A category writes only a few forms of
literal, and each form has one lemma below; which numbers and times are covered is said by
`Keeps`.
-/
import RowShell.Column.Decoding
import RowShell.Proofs.Column.Echo
import RowShell.Proofs.Column.Null
import RowShell.Proofs.Number.Exact
import RowShell.Proofs.Time.Epoch
import RowShell.Proofs.Value.Text

namespace RowShell

open Outcome

namespace Literal

theorem ofBinary64_eq_ofInt {x : Binary64} {n : Int} (h : x.toInt? = some n)
    (hn : n.natAbs < 10 ^ 21) : ofBinary64 x = String.ofList (Numeral.ofInt n) := by
  rw [ofBinary64, if_pos (Binary64.isFinite_of_toInt? h), Binary64.numberText_of_toInt? h hn]

end Literal

namespace Column

variable {column : Column} {value : Value} {literal : String}

/-- What is printed for a literal is read back as a value with the same literal. -/
def Restores (column : Column) (literal : String) : Prop :=
  ∃ printed read, Literal.echo? literal = some printed ∧ column.decode printed = .ok read ∧
    (column.literal read).outcome = .ok literal

/-- Null is read back as null, or in a blob column as the empty map, which is stored as null. -/
theorem restores_null (column : Column) : column.Restores Literal.null := by
  by_cases hblob : column.category = .blob
  · refine ⟨.null, .map [], Literal.echo?_null, ?_, ?_⟩
    · unfold decode
      rw [hblob]
    · rw [outcome_literal column (by simp), hblob]
  · refine ⟨.null, .null, Literal.echo?_null, ?_, rfl⟩
    unfold decode
    cases hcategory : column.category <;> first | rfl | exact absurd hcategory hblob

/-! ### Text -/

/-- A text that was cut to the size of the column is not cut again. -/
theorem truncated_truncated (column : Column) (s : String) :
    column.truncated (column.truncated s) = column.truncated s := by
  unfold truncated
  cases column.size with
  | none => rfl
  | some size => simp [List.take_take]

theorem truncated_of_length_le {s : String} (h : ∀ size, column.size = some size → s.length ≤ size) :
    column.truncated s = s := by
  unfold truncated
  cases hsize : column.size with
  | none => rfl
  | some size =>
      have hlength : s.toList.length ≤ size := h size hsize
      show String.ofList (s.toList.take size) = s
      rw [List.take_of_length_le hlength, String.ofList_toList]

theorem literal_text (hcategory : column.category = .string) (s : String) :
    (column.literal (.text s)).outcome = .ok (Literal.quote (column.truncated s)) := by
  rw [outcome_literal column (by simp), hcategory]
  rfl

theorem decode_text (hcategory : column.category = .string) (s : String) :
    column.decode (.text s) = .ok (.text s) := by
  unfold decode
  rw [hcategory]
  rfl

theorem restores_quote (hcategory : column.category = .string) (s : String) :
    column.Restores (Literal.quote (column.truncated s)) := by
  refine ⟨_, _, Literal.echo?_quote _, decode_text hcategory _, ?_⟩
  rw [literal_text hcategory, truncated_truncated]

/-! ### Truth values -/

theorem literal_bool (hcategory : column.category = .boolean) (b : Bool) :
    (column.literal (.bool b)).outcome = .ok (if b then "1" else "0") := by
  rw [outcome_literal column (by simp), hcategory]
  rfl

/-- A truth value is written as a number, which is read back as the truth value. -/
theorem decode_ofBool (hcategory : column.category = .boolean) (b : Bool) :
    column.decode (.int (if b then 1 else 0)) = .ok (.bool b) := by
  obtain ⟨x, hx, hzero⟩ := Binary64.exists_ofInt?_bool b
  have hnumber : (Value.int (if b then 1 else 0)).leadingFloat? = .ok (some x) := by
    rw [Value.leadingFloat?, Value.binary64, hx]
    rfl
  unfold decode
  rw [hcategory]
  show decodeBoolean _ = _
  rw [decodeBoolean, hnumber, ok_bind]
  show Except.ok (Value.bool (!x.isZero)) = _
  rw [hzero, Bool.not_not]

theorem echo?_ofBool (b : Bool) :
    Literal.echo? (if b then "1" else "0") = some (.int (if b then 1 else 0)) := by
  have hshort : ¬ Numeral.IsLong (if b then 1 else 0) := by
    refine Numeral.not_isLong_of_lt (k := 1) (by decide) ?_
    cases b <;> decide
  cases b with
  | false => exact Literal.echo?_ofInt hshort
  | true => exact Literal.echo?_ofInt hshort

theorem restores_ofBool (hcategory : column.category = .boolean) (b : Bool) :
    column.Restores (if b then "1" else "0") :=
  ⟨_, _, echo?_ofBool b, decode_ofBool hcategory b, literal_bool hcategory b⟩

/-! ### Exact numbers -/

/-- The columns that keep integers of any size. -/
def IsExact (column : Column) : Prop :=
  column.category = .int ∨ column.category = .numeric ∨ column.category = .typeless

theorem literal_int (hexact : column.IsExact) (n : Int) :
    (column.literal (.int n)).outcome = Value.numeral n := by
  rw [outcome_literal column (by simp)]
  rcases hexact with h | h | h <;>
  · rw [h]
    rfl

theorem decode_int (hexact : column.IsExact) (n : Int) : column.decode (.int n) = .ok (.int n) := by
  unfold decode
  rcases hexact with h | h | h <;>
  · rw [h]
    rfl

theorem restores_int (hexact : column.IsExact) {n : Int} (h : ¬ Numeral.IsLong n) :
    column.Restores (String.ofList (Numeral.ofInt n)) := by
  refine ⟨.int n, .int n, Literal.echo?_ofInt h, decode_int hexact n, ?_⟩
  rw [literal_int hexact, Value.numeral_eq_ok]
  exact ⟨h, rfl⟩

/-- The digits of an integer are read back as the integer, also where they come as text. -/
theorem decode_digits (hcategory : column.category = .int) {n : Int} (h : ¬ Numeral.IsLong n) :
    column.decode (.text (String.ofList (Numeral.ofInt n))) = .ok (.int n) := by
  unfold decode
  rw [hcategory]
  show leadingWhole (String.ofList (Numeral.ofInt n)) = _
  rw [leadingWhole, String.toList_ofList, Leading.integerDigits?_ofInt]
  dsimp only
  rw [Numeral.value?_ofNat (Nat.lt_of_not_le h)]
  show Except.ok (Value.int (Numeral.signed (decide (n < 0)) n.natAbs)) = _
  rw [Numeral.signed_natAbs]

/-! ### Binary numbers -/

theorem restores_plain (hexact : column.IsExact) {x : Binary64} (hplain : x.IsPlain) :
    column.Restores (Literal.ofBinary64 x) := by
  rcases hplain with hfinite | ⟨n, hn, hsmall⟩
  · rw [Literal.ofBinary64_eq_null.mpr hfinite]
    exact column.restores_null
  · rw [Literal.ofBinary64_eq_ofInt hn hsmall]
    exact restores_int hexact (Binary64.not_isLong_of_natAbs_lt hsmall)

theorem literal_real (hcategory : column.category = .real) (hv : value ≠ .null) :
    (column.literal value).outcome = value.leadingFloat?.map Literal.ofBinary64? := by
  rw [outcome_literal column hv, hcategory]

/-- The number that is read from a real column equals the one that was written, though not with
the sign of a negative zero. -/
theorem restores_real (hcategory : column.category = .real) {x : Binary64} (hplain : x.IsPlain) :
    column.Restores (Literal.ofBinary64 x) := by
  rcases hplain with hfinite | ⟨n, hn, hsmall⟩
  · rw [Literal.ofBinary64_eq_null.mpr hfinite]
    exact column.restores_null
  · obtain ⟨y, hy, hequal⟩ := Binary64.ofInt?_of_toInt? hn
    have hnumber : (Value.int n).leadingFloat? = .ok (some y) := by
      rw [Value.leadingFloat?, Value.binary64, hy]
      rfl
    have hdecode : column.decode (.int n) = .ok (.float y) := by
      unfold decode
      rw [hcategory]
      show (do return ((← (Value.int n).leadingFloat?).map Value.float).getD .null) = _
      rw [hnumber]
      rfl
    rw [Literal.ofBinary64_eq_ofInt hn hsmall]
    refine ⟨_, _, Literal.echo?_ofInt (Binary64.not_isLong_of_natAbs_lt hsmall), hdecode, ?_⟩
    rw [literal_real hcategory (by simp)]
    show Except.ok (Literal.ofBinary64 y) = _
    rw [Literal.ofBinary64_eq_ofInt hequal hsmall]

/-! ### Times -/

/-- A count of milliseconds within the calendar. -/
def IsCount (literal : String) : Prop :=
  ∃ millis, Timestamp.leastEpochMillis ≤ millis ∧ millis ≤ Timestamp.greatestEpochMillis ∧
    literal = String.ofList (Numeral.ofInt millis)

theorem restores_count (hcategory : column.category = .datetime) (h : IsCount literal) :
    column.Restores literal := by
  obtain ⟨millis, hleast, hgreatest, rfl⟩ := h
  obtain ⟨t, ht, -, hmillis⟩ := Timestamp.ofEpochMillis?_spec hleast hgreatest
  have hshort := Timestamp.not_isLong_epochMillis hmillis
  have hdecode : column.decode (.int millis) = .ok (.timestamp t) := by
    unfold decode
    rw [hcategory]
    show Except.ok (((Timestamp.ofEpochMillis? millis).map Value.timestamp).getD .null) = _
    rw [ht]
    rfl
  refine ⟨_, _, Literal.echo?_ofInt hshort, hdecode, ?_⟩
  rw [outcome_literal column (by simp), hcategory]
  show timestampLiteral t = _
  rw [timestampLiteral, hmillis]
  exact Value.numeral_eq_ok.mpr ⟨hshort, rfl⟩

/-! ### Every literal -/

/-- The values and literals that a column keeps.  A number has to have a text without fraction
or exponent where its column reads back what is printed for it, and a time has to lie in the
part of the calendar that is read back. -/
def Keeps (column : Column) (value : Value) (literal : String) : Prop :=
  match column.category with
  | .string | .boolean | .blob | .unclassified => True
  | .int => value.isNumber = true
  | .numeric | .typeless => (∃ n, value = .int n) ∨ ∃ x, value = .float x ∧ x.IsPlain
  | .real => value.isNumber = true ∧ ∃ x, value.leadingFloat? = .ok (some x) ∧ x.IsPlain
  | .datetime => literal = Literal.null ∨ IsCount literal

theorem restores_numeral (hexact : column.IsExact) {n : Int} (h : Value.numeral n = .ok literal) :
    column.Restores literal := by
  obtain ⟨hshort, rfl⟩ := Value.numeral_eq_ok.mp h
  exact restores_int hexact hshort

theorem restores_wholeLiteral (hcategory : column.category = .int) (hnumber : value.isNumber = true)
    (h : wholeLiteral value = .ok literal) : column.Restores literal := by
  cases value with
  | int n =>
      rw [wholeLiteral] at h
      exact restores_numeral (.inl hcategory) h
  | float x =>
      rw [wholeLiteral] at h
      cases htrunc : x.trunc? with
      | none =>
          rw [htrunc] at h
          cases h
          exact column.restores_null
      | some n =>
          rw [htrunc] at h
          exact restores_numeral (.inl hcategory) h
  | _ => cases hnumber

theorem restores_looseLiteral (hexact : column.IsExact)
    (hkeeps : (∃ n, value = .int n) ∨ ∃ x, value = .float x ∧ x.IsPlain)
    (h : looseLiteral value = .ok literal) : column.Restores literal := by
  rcases hkeeps with ⟨n, rfl⟩ | ⟨x, rfl, hplain⟩
  · rw [looseLiteral] at h
    exact restores_numeral hexact h
  · cases h
    exact restores_plain hexact hplain

/-- **A value that is read back has the literal under which it was stored.** -/
theorem literal_of_decode_echo (hkeeps : column.Keeps value literal)
    (h : (column.literal value).outcome = .ok literal) :
    ∃ printed read, Literal.echo? literal = some printed ∧ column.decode printed = .ok read ∧
      (column.literal read).outcome = .ok literal := by
  show column.Restores literal
  by_cases hv : value = .null
  · subst hv
    cases h
    exact column.restores_null
  rw [outcome_literal column hv] at h
  unfold Keeps at hkeeps
  cases hcategory : column.category with
  | string =>
      rw [hcategory] at h
      obtain ⟨s, -, rfl⟩ := map_eq_ok.mp h
      exact restores_quote hcategory s
  | numeric =>
      rw [hcategory] at h hkeeps
      exact restores_looseLiteral (.inr (.inl hcategory)) hkeeps h
  | typeless =>
      rw [hcategory] at h hkeeps
      exact restores_looseLiteral (.inr (.inr hcategory)) hkeeps h
  | int =>
      rw [hcategory] at h hkeeps
      exact restores_wholeLiteral hcategory hkeeps h
  | real =>
      rw [hcategory] at h hkeeps
      obtain ⟨-, x, hx, hplain⟩ := hkeeps
      dsimp only at h
      rw [hx] at h
      cases h
      exact restores_real hcategory hplain
  | boolean =>
      rw [hcategory] at h
      cases h
      exact restores_ofBool hcategory value.isTruthy
  | blob =>
      rw [hcategory] at h
      cases h
      exact column.restores_null
  | unclassified =>
      rw [hcategory] at h
      obtain ⟨-, -, rfl⟩ := map_eq_ok.mp h
      exact column.restores_null
  | datetime =>
      rw [hcategory] at hkeeps
      rcases hkeeps with hnull | hcount
      · rw [hnull]
        exact column.restores_null
      · exact restores_count hcategory hcount

theorem literal_of_decode_echo_date :
    let column := ofType "created" "DATETIME" none
    let day := Value.date ⟨2024, 1, 2, by decide⟩
    let literal := "1704153600000"
    column.Keeps day literal ∧ (column.literal day).outcome = .ok literal ∧
      ∃ printed read, Literal.echo? literal = some printed ∧ column.decode printed = .ok read ∧
        (column.literal read).outcome = .ok literal := by
  intro column day literal
  have hcategory : column.category = .datetime := by decide
  have hkeeps : column.Keeps day literal := by
    unfold Keeps
    rw [hcategory]
    exact .inr ⟨1704153600000, by decide, by decide, by decide⟩
  have hliteral : (column.literal day).outcome = .ok literal := by decide +kernel
  exact ⟨hkeeps, hliteral, literal_of_decode_echo hkeeps hliteral⟩

/-! ### The values of a category -/

/-- The values that a category is for and that it can hold: text that fits, truth values,
integers that have a numeral, and in a column of any numbers text that begins with none. -/
def Owns (column : Column) : Value → Prop
  | .text s =>
    (column.category = .string ∧ ∀ size, column.size = some size → s.length ≤ size) ∨
      ((column.category = .numeric ∨ column.category = .typeless) ∧
        (Value.text s).leadingFloat? = .ok none)
  | .bool _ => column.category = .boolean
  | .int n => column.IsExact ∧ ¬ Numeral.IsLong n
  | _ => False

theorem literal_loose_text (hcategory : column.category = .numeric ∨ column.category = .typeless)
    (s : String) : (column.literal (.text s)).outcome = .ok (Literal.quote s) := by
  rw [outcome_literal column (by simp)]
  rcases hcategory with h | h
  · rw [h]
    rfl
  · rw [h]
    rfl

theorem decode_loose_text (hcategory : column.category = .numeric ∨ column.category = .typeless)
    {s : String} (h : (Value.text s).leadingFloat? = .ok none) :
    column.decode (.text s) = .ok (.text s) := by
  have hloose : decodeLoose (.text s) = .ok (.text s) := by
    unfold decodeLoose
    dsimp only
    rw [h]
    rfl
  unfold decode
  rcases hcategory with h | h
  · rw [h]
    exact hloose
  · rw [h]
    exact hloose

/-- **The values of a category are read back as they were**, integers of an integer column also
where they are printed as text. -/
theorem decode_echo_literal (h : column.Owns value) :
    ∃ literal printed, (column.literal value).outcome = .ok literal ∧
      Literal.echo? literal = some printed ∧ column.decode printed = .ok value ∧
      (column.category = .int → column.decode (.text literal) = .ok value) := by
  cases value with
  | text s =>
      rcases h with ⟨hcategory, hfits⟩ | ⟨hcategory, hnone⟩
      · refine ⟨_, _, literal_text hcategory s, Literal.echo?_quote _, ?_, ?_⟩
        · rw [truncated_of_length_le hfits]
          exact decode_text hcategory s
        · intro hint
          rw [hcategory] at hint
          cases hint
      · refine ⟨_, _, literal_loose_text hcategory s, Literal.echo?_quote s,
          decode_loose_text hcategory hnone, ?_⟩
        intro hint
        rw [hint] at hcategory
        rcases hcategory with hcategory | hcategory <;> cases hcategory
  | bool b =>
      refine ⟨_, _, literal_bool h b, echo?_ofBool b, decode_ofBool h b, ?_⟩
      intro hint
      have hboolean : column.category = .boolean := h
      rw [hint] at hboolean
      cases hboolean
  | int n =>
      obtain ⟨hexact, hshort⟩ := h
      refine ⟨_, _, ?_, Literal.echo?_ofInt hshort, decode_int hexact n, ?_⟩
      · rw [literal_int hexact, Value.numeral_eq_ok]
        exact ⟨hshort, rfl⟩
      · intro hint
        exact decode_digits hint hshort
  | _ => exact absurd h id

theorem decode_echo_literal_quote :
    let column := ofType "name" "VARCHAR" (some 4)
    column.Owns (.text "it's") ∧
      ∃ literal printed, (column.literal (.text "it's")).outcome = .ok literal ∧
        Literal.echo? literal = some printed ∧ column.decode printed = .ok (.text "it's") ∧
        (column.category = .int → column.decode (.text literal) = .ok (.text "it's")) := by
  intro column
  have howns : column.Owns (.text "it's") := by
    refine .inl ⟨by decide, ?_⟩
    intro size hsize
    cases hsize
    decide
  exact ⟨howns, decode_echo_literal howns⟩

end Column

end RowShell
