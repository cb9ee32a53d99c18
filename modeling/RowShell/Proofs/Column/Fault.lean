/-
Why a value has no literal.

A column that cannot write a value ends with a fault, and which fault it is tells the reason: an
integer in the value that is too long for a numeral, an integer beyond the binary64 numbers, or a
timestamp at the edge of the calendar.  `LiteralFault` lists the cases, each with its fault, and
`literal_faults` says that the list is complete and that a value in none of its cases has a
literal.

A column of timestamps is met twice: what it reads as a timestamp may be too early, and what it
cannot read is shown in a warning, so that a long integer in it counts there as well.

A timestamp that is marked as the second of two which read alike is not too early on the first day
of the calendar but too late on the last one.  Such a mark is only on a value that is a timestamp
already: no text, number or date is read with one.
-/
import RowShell.Proofs.Column.Failure
import RowShell.Proofs.Time.Written

namespace RowShell

open Outcome

/-- Only a value that is a timestamp already can be marked as the second of two. -/
theorem Value.fold_timestamp?_eq {value : Value} {t : Timestamp}
    (hnative : value ≠ .timestamp t) (h : value.timestamp? = some t) : t.time.fold = false := by
  cases value with
  | timestamp u =>
      cases h
      exact absurd rfl hnative
  | date d =>
      cases h
      rfl
  | int n => exact (Timestamp.ofEpochMillis?_eq_some.mp h).2.2.1
  | float x =>
      obtain ⟨n, -, hread⟩ := Option.bind_eq_some_iff.mp h
      exact (Timestamp.ofEpochMillis?_eq_some.mp hread).2.2.1
  | text s => exact Timestamp.fold_ofText?_eq h
  | _ => cases h

theorem Value.eq_timestamp_of_fold {value : Value} {t : Timestamp} (h : value.timestamp? = some t)
    (hfold : t.time.fold = true) : value = .timestamp t := by
  by_contra hnative
  rw [fold_timestamp?_eq hnative h] at hfold
  cases hfold

namespace Column

/-- The values that a column has no literal for, and why. -/
inductive LiteralFault (column : Column) : Value → Fault → Prop
  /-- The value is written, or shown in a warning, with all that is in it. -/
  | displayed {value : Value}
      (hcategory : column.category ∈ [.string, .numeric, .typeless, .unclassified, .datetime])
      (h : value.HoldsLong) : LiteralFault column value .longNumeral
  | whole {n : Int} (hcategory : column.category = .int) (h : Numeral.IsLong n) :
      LiteralFault column (.int n) .longNumeral
  | real {n : Int} (hcategory : column.category = .real) (h : Binary64.IsBeyond n) :
      LiteralFault column (.int n) .beyondBinary64
  | early {value : Value} {t : Timestamp} (hcategory : column.category = .datetime)
      (ht : value.timestamp? = some t) (hfold : t.time.fold = false) (hoffset : t.offset = none)
      (h : t.instant < Timestamp.secondDay.instant) : LiteralFault column value .beforeCalendar
  /-- The second of two that read alike is too late instead. -/
  | late {t : Timestamp} (hcategory : column.category = .datetime) (hfold : t.time.fold = true)
      (hoffset : t.offset = none) (h : Timestamp.lastDay.instant ≤ t.instant) :
      LiteralFault column (.timestamp t) .beforeCalendar

variable {column : Column} {value : Value} {fault : Fault}

theorem Unwritable.literalFault (h : column.Unwritable value) :
    column.LiteralFault value (column.literalFault value) := by
  unfold Unwritable at h
  unfold Column.literalFault
  cases hcategory : column.category with
  | string | numeric | typeless | unclassified =>
      rw [hcategory] at h
      exact .displayed (by rw [hcategory]; decide) h
  | int =>
      rw [hcategory] at h
      obtain ⟨n, rfl, h⟩ := h
      exact .whole hcategory h
  | real =>
      rw [hcategory] at h
      obtain ⟨n, rfl, h⟩ := h
      exact .real hcategory h
  | blob | boolean =>
      rw [hcategory] at h
      exact h.elim
  | datetime =>
      rw [hcategory] at h
      cases ht : value.timestamp? with
      | some t =>
          rw [ht] at h
          rcases h with ⟨hfold, hoffset, h⟩ | ⟨hfold, hoffset, h⟩
          · exact .early hcategory ht hfold hoffset h
          · obtain rfl := Value.eq_timestamp_of_fold ht hfold
            exact .late hcategory hfold hoffset h
      | none =>
          rw [ht] at h
          exact .displayed (by rw [hcategory]; decide) h

end Column

end RowShell
