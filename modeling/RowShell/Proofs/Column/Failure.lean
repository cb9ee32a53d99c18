/-
Values that a column cannot take or give.

Writing a value as a literal fails in three ways only: a whole number in it has no
numeral, a whole number is beyond the range of binary64 numbers, or a timestamp has no
count of milliseconds.  Which of them can happen depends on the category of the column,
and `Unwritable` lists it.  What a column makes by itself, the milliseconds of a timestamp
or the whole part of a number, is never too long to be written.

Reading a printed value back fails in the first two ways, `Undecodable`.
-/
import RowShell.Column.Decoding
import RowShell.Proofs.Column.Literal
import RowShell.Proofs.Number.Leading
import RowShell.Proofs.Time.Epoch
import RowShell.Proofs.Value.Text

namespace RowShell

open Outcome

/-! ### Writing -/

namespace Column

/-- The values that have no literal for a column. -/
def Unwritable (column : Column) (value : Value) : Prop :=
  match column.category with
  | .string | .numeric | .typeless | .unclassified => value.HoldsLong
  | .int => ∃ n, value = .int n ∧ Numeral.IsLong n
  | .real => ∃ n, value = .int n ∧ Binary64.IsBeyond n
  | .blob | .boolean => False
  | .datetime =>
    match value.timestamp? with
    | some t => t.IsUncounted
    | none => value.HoldsLong

theorem fails_looseLiteral {value : Value} : Fails (looseLiteral value) ↔ value.HoldsLong := by
  have displayed : Fails (do let text ← value.display; pure (Literal.quote text)) ↔
      value.HoldsLong := fails_bind_ok.trans Value.fails_display
  cases value with
  | int n => exact Value.fails_numeral (n := n)
  | float x => exact iff_of_false (not_fails_ok _) id
  | _ => exact displayed

theorem fails_wholeLiteral {value : Value} :
    Fails (wholeLiteral value) ↔ ∃ n, value = .int n ∧ Numeral.IsLong n := by
  have counted : Fails (do let number ← value.leadingFloat?; pure (Literal.ofBinary64? number)) ↔
      ∃ n, value = .int n ∧ Binary64.IsBeyond n :=
    fails_bind_ok.trans Value.fails_leadingFloat?
  cases value with
  | int n =>
      refine (Value.fails_numeral (n := n)).trans ?_
      simp only [Value.int.injEq, exists_eq_left']
  | float x =>
      refine iff_of_false ?_ nofun
      unfold wholeLiteral
      cases htrunc : x.trunc? with
      | none => simp [htrunc]
      | some n =>
          have hlong := Numeral.not_isLong_of_lt (k := 1024) (by decide) (Binary64.trunc?_lt htrunc)
          simpa [htrunc] using mt Value.fails_numeral.mp hlong
  | _ => exact iff_of_false (fun h => nomatch counted.mp h) nofun

theorem fails_timestampLiteral {t : Timestamp} : Fails (timestampLiteral t) ↔ t.IsUncounted := by
  rw [← Timestamp.epochMillis?_eq_none]
  unfold timestampLiteral
  cases h : t.epochMillis? with
  | none => exact iff_of_true (fails_error _) rfl
  | some millis =>
      have hlong := Timestamp.not_isLong_epochMillis h
      exact iff_of_false (mt Value.fails_numeral.mp hlong) nofun

@[simp] theorem not_unwritable_null (column : Column) : ¬ column.Unwritable .null := by
  unfold Unwritable
  cases column.category <;> simp [Value.HoldsLong, Value.timestamp?]

/-- **A value has a literal for a column unless it is unwritable there.** -/
theorem fails_literal {column : Column} {value : Value} :
    Fails (column.literal value).outcome ↔ column.Unwritable value := by
  by_cases hv : value = .null
  · subst hv
    exact iff_of_false (not_fails_ok _) (not_unwritable_null column)
  · rw [outcome_literal column hv]
    unfold Unwritable
    cases column.category with
    | string => exact fails_map.trans Value.fails_storedText
    | numeric => exact fails_looseLiteral
    | typeless => exact fails_looseLiteral
    | int => exact fails_wholeLiteral
    | real => exact fails_map.trans Value.fails_leadingFloat?
    | blob => exact iff_of_false (not_fails_ok _) id
    | boolean => exact iff_of_false (not_fails_ok _) id
    | datetime =>
        cases value.timestamp? with
        | some t => exact fails_timestampLiteral
        | none => exact fails_map.trans Value.fails_inspect
    | unclassified => exact fails_map.trans Value.fails_inspect

theorem onlyFault_timestampLiteral (t : Timestamp) :
    OnlyFault .beforeCalendar (timestampLiteral t) := by
  unfold timestampLiteral
  cases h : t.epochMillis? with
  | none => exact onlyFault_error _
  | some millis =>
      have hlong := Timestamp.not_isLong_epochMillis h
      exact onlyFault_of_not_fails (mt Value.fails_numeral.mp hlong)

theorem onlyFault_looseLiteral (value : Value) : OnlyFault .longNumeral (looseLiteral value) := by
  unfold looseLiteral
  split
  · exact Value.onlyFault_numeral _
  · exact onlyFault_ok _ _
  · exact onlyFault_bind (Value.onlyFault_display _) fun _ => onlyFault_ok _ _

theorem onlyFault_wholeLiteral (value : Value) : OnlyFault .longNumeral (wholeLiteral value) := by
  intro other h
  obtain ⟨n, rfl, -⟩ := fails_wholeLiteral.mp ⟨other, h⟩
  exact Value.onlyFault_numeral n other h

/-- Why an unwritable value has no literal for a column. -/
def literalFault (column : Column) (value : Value) : Fault :=
  match column.category with
  | .real => .beyondBinary64
  | .datetime =>
    match value.timestamp? with
    | some _ => .beforeCalendar
    | none => .longNumeral
  | _ => .longNumeral

theorem onlyFault_literal (column : Column) (value : Value) :
    OnlyFault (column.literalFault value) (column.literal value).outcome := by
  by_cases hv : value = .null
  · subst hv
    exact onlyFault_ok _ _
  · rw [outcome_literal column hv]
    unfold literalFault
    cases column.category with
    | string => exact onlyFault_map (Value.onlyFault_storedText value)
    | numeric => exact onlyFault_looseLiteral value
    | typeless => exact onlyFault_looseLiteral value
    | int => exact onlyFault_wholeLiteral value
    | real => exact onlyFault_map (Value.onlyFault_leadingFloat? value)
    | blob => exact onlyFault_ok _ _
    | boolean => exact onlyFault_ok _ _
    | datetime =>
        cases value.timestamp? with
        | some t => exact onlyFault_timestampLiteral t
        | none => exact onlyFault_map (Value.onlyFault_inspect value)
    | unclassified => exact onlyFault_map (Value.onlyFault_inspect value)

/-- That a value has no literal is no refusal. -/
theorem unrefused_literal (column : Column) (value : Value) :
    Unrefused (column.literal value).outcome := by
  refine (column.onlyFault_literal value).unrefused ?_
  unfold literalFault
  split
  · rfl
  · split <;> rfl
  · rfl

end Column

/-! ### Reading -/

/-- Whether a value is neither null nor made of other values. -/
def Value.IsScalar : Value → Prop
  | .null | .list _ | .map _ => False
  | _ => True

namespace Column

/-- The printed values that cannot be read back for a column. -/
def Undecodable (column : Column) (value : Value) : Prop :=
  match column.category, value with
  | .string, .int n => Numeral.IsLong n
  | .boolean, .int n | .real, .int n => Binary64.IsBeyond n
  | .int, .text s => LeadsTooLong s
  | _, _ => False

theorem fails_leadingWhole {text : String} : Fails (leadingWhole text) ↔ LeadsTooLong text := by
  unfold leadingWhole LeadsTooLong
  cases hread : Leading.integerDigits? text.toList with
  | none => exact iff_of_false (not_fails_ok _) nofun
  | some read =>
      obtain ⟨negative, digits⟩ := read
      refine Numeral.fails_digits.trans ⟨fun hlong => ⟨negative, digits, rfl, hlong⟩, ?_⟩
      intro h
      obtain ⟨_, _, heq, hlong⟩ := h
      cases heq
      exact hlong

theorem fails_display_leadingWhole (value : Value) {text : String}
    (h : value.display = .ok text) :
    Fails (value.display >>= leadingWhole) ↔ LeadsTooLong text := by
  rw [h, ok_bind]
  exact fails_leadingWhole

/-- Of the scalars only a text can fail as a whole number. -/
theorem fails_decodeWhole {value : Value} (h : value.IsScalar) :
    Fails (decodeWhole value) ↔ ∃ s, value = .text s ∧ LeadsTooLong s := by
  cases value with
  | text s =>
      have hfails := fails_display_leadingWhole (.text s) rfl
      unfold decodeWhole
      refine hfails.trans ?_
      simp only [Value.text.injEq, exists_eq_left']
  | bytes data =>
      have hfails := mt (fails_display_leadingWhole (.bytes data) rfl).mp
        (not_leadsTooLong_bytes data)
      unfold decodeWhole
      exact iff_of_false hfails nofun
  | timestamp t =>
      have hfails := mt (fails_display_leadingWhole (.timestamp t) rfl).mp
        (not_leadsTooLong_timestamp ' ' t)
      unfold decodeWhole
      exact iff_of_false hfails nofun
  | date d =>
      have hdate := not_leadsTooLong_date d []
      rw [List.append_nil] at hdate
      have hfails := mt (fails_display_leadingWhole (.date d) rfl).mp hdate
      unfold decodeWhole
      exact iff_of_false hfails nofun
  | int _ | bool _ | float _ => exact iff_of_false (not_fails_ok _) nofun
  | null | list _ | map _ => exact h.elim

theorem not_fails_decodeLoose {value : Value} (h : value.HoldsLong → ∃ n, value = .int n) :
    ¬ Fails (decodeLoose value) := by
  unfold decodeLoose
  split
  · exact not_fails_ok _
  · exact not_fails_ok _
  · next hint _ =>
      have hdisplay : ¬ Fails value.display := fun hfails =>
        (h (Value.fails_display.mp hfails)).elim hint
      have hnumber : ¬ Fails value.leadingFloat? := fun hfails =>
        (Value.fails_leadingFloat?.mp hfails).elim fun n hn => hint n hn.1
      obtain ⟨text, htext⟩ := not_fails_iff.mp hdisplay
      obtain ⟨number, hnumber⟩ := not_fails_iff.mp hnumber
      rw [htext, ok_bind, hnumber, ok_bind]
      split
      · exact not_fails_ok _
      · exact not_fails_ok _

/-- **A printed value can be read back for a column unless it is undecodable there.** -/
theorem fails_decode {column : Column} {value : Value} :
    Fails (column.decode value) ↔ column.Undecodable value := by
  have displayed : Fails (do let text ← value.display; pure (Value.text text)) ↔
      value.HoldsLong := fails_bind_ok.trans Value.fails_display
  have counted {β : Type} (f : Option Binary64 → β) :
      Fails (do let number ← value.leadingFloat?; pure (f number)) ↔
        ∃ n, value = .int n ∧ Binary64.IsBeyond n :=
    fails_bind_ok.trans Value.fails_leadingFloat?
  have whole : value.IsScalar →
      (Fails (decodeWhole value) ↔ ∃ s, value = .text s ∧ LeadsTooLong s) := fails_decodeWhole
  unfold decode Undecodable
  cases column.category with
  | blob => exact iff_of_false (not_fails_ok _) id
  | string =>
      cases value with
      | null | list _ | map _ => exact iff_of_false (not_fails_ok _) id
      | _ => exact displayed
  | boolean =>
      cases value with
      | null => exact iff_of_false (not_fails_ok _) id
      | int n =>
          refine (counted _).trans ?_
          simp only [Value.int.injEq, exists_eq_left']
      | _ => exact iff_of_false (fun h => nomatch (counted _).mp h) id
  | numeric | typeless =>
      cases value with
      | null | list _ | map _ => exact iff_of_false (not_fails_ok _) id
      | int n => exact iff_of_false (not_fails_decodeLoose fun _ => ⟨n, rfl⟩) id
      | _ => exact iff_of_false (not_fails_decodeLoose False.elim) id
  | int =>
      cases value with
      | null | list _ | map _ => exact iff_of_false (not_fails_ok _) id
      | text s =>
          refine (whole trivial).trans ?_
          simp only [Value.text.injEq, exists_eq_left']
      | _ => exact iff_of_false (fun h => nomatch (whole trivial).mp h) id
  | real =>
      cases value with
      | null | list _ | map _ => exact iff_of_false (not_fails_ok _) id
      | int n =>
          refine (counted _).trans ?_
          simp only [Value.int.injEq, exists_eq_left']
      | _ => exact iff_of_false (fun h => nomatch (counted _).mp h) id
  | datetime | unclassified =>
      cases value with
      | null | list _ | map _ => exact iff_of_false (not_fails_ok _) id
      | _ => exact iff_of_false (not_fails_ok _) id

theorem onlyFault_leadingWhole (text : String) : OnlyFault .longNumeral (leadingWhole text) := by
  unfold leadingWhole
  split
  · exact onlyFault_ok _ _
  · split
    · exact onlyFault_ok _ _
    · exact onlyFault_error _

theorem onlyFault_decodeWhole (value : Value) : OnlyFault .longNumeral (decodeWhole value) := by
  unfold decodeWhole
  split
  · exact onlyFault_ok _ _
  · exact onlyFault_ok _ _
  · exact onlyFault_ok _ _
  · exact onlyFault_bind (Value.onlyFault_display value) onlyFault_leadingWhole

/-- Why an undecodable value cannot be read back for a column. -/
def decodingFault (column : Column) : Fault :=
  match column.category with
  | .real | .boolean => .beyondBinary64
  | _ => .longNumeral

theorem onlyFault_decode (column : Column) (value : Value) :
    OnlyFault column.decodingFault (column.decode value) := by
  unfold decode decodingFault
  cases column.category with
  | blob => exact onlyFault_ok _ _
  | string =>
      cases value with
      | null | list _ | map _ => exact onlyFault_ok _ _
      | _ => exact onlyFault_bind (Value.onlyFault_display _) fun _ => onlyFault_ok _ _
  | boolean =>
      cases value with
      | null => exact onlyFault_ok _ _
      | _ => exact onlyFault_bind (Value.onlyFault_leadingFloat? _) fun _ => onlyFault_ok _ _
  | numeric | typeless =>
      cases value with
      | null | list _ | map _ => exact onlyFault_ok _ _
      | int n => exact onlyFault_of_not_fails (not_fails_decodeLoose fun _ => ⟨n, rfl⟩)
      | _ => exact onlyFault_of_not_fails (not_fails_decodeLoose False.elim)
  | int =>
      cases value with
      | null | list _ | map _ => exact onlyFault_ok _ _
      | _ => exact onlyFault_decodeWhole _
  | real =>
      cases value with
      | null | list _ | map _ => exact onlyFault_ok _ _
      | _ => exact onlyFault_bind (Value.onlyFault_leadingFloat? _) fun _ => onlyFault_ok _ _
  | datetime | unclassified =>
      cases value with
      | null | list _ | map _ => exact onlyFault_ok _ _
      | _ => exact onlyFault_ok _ _

/-- That a printed value cannot be read back is no refusal. -/
theorem unrefused_decode (column : Column) (value : Value) : Unrefused (column.decode value) := by
  refine (column.onlyFault_decode value).unrefused ?_
  unfold decodingFault
  split <;> rfl

end Column

end RowShell
