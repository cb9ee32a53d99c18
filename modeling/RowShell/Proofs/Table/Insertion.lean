/-
Null where a column must not be null.

An insertion looks at what the record gives a column before it is written.  Null, or nothing
where no default is declared, is refused for a column that must not be null, and then nothing
is asked of the shell.  The test is made on the value: one that the column itself writes as
null passes it, and `not_valuesSql_ne_null` is the smallest case.

`insert_notNull` says that null comes in no other way.  In the list of an insertion such a
column has null for those values only, never for want of a value and never from a default.
-/
import RowShell.Proofs.Column.Null
import RowShell.Proofs.Schema.Mutation
import RowShell.Proofs.Table.Session

namespace RowShell

open Outcome

/-! ### Items -/

namespace Schema

variable {record : List (String × Value)} {column : Column} {item : String}

/-- The value of the record for the column is written as null without being null. -/
def Nullifies (record : List (String × Value)) (column : Column) : Prop :=
  ∃ value, Keyed.value? column.name record = some value ∧ value ≠ .null ∧
    column.WritesNull value

theorem IsInsertItem.eq_null_iff (h : IsInsertItem record column item)
    (hgiven : ¬ Withheld record column) (hdefault : column.defaultSql ≠ some Literal.null)
    (hnotNull : column.notNull = true) : item = Literal.null ↔ Nullifies record column := by
  unfold IsInsertItem at h
  unfold Nullifies
  cases hvalue : Keyed.value? column.name record with
  | some value =>
      rw [hvalue] at h
      have hne : value ≠ .null := by
        intro heq
        subst heq
        exact hgiven ⟨hnotNull, .inl hvalue⟩
      rw [Column.literal_eq_null_iff h]
      simp [hne]
  | none =>
      rw [hvalue] at h
      refine iff_of_false ?_ nofun
      cases hsql : column.defaultSql with
      | none => exact absurd ⟨hnotNull, .inr ⟨hvalue, hsql⟩⟩ hgiven
      | some sql =>
          rw [hsql] at h hdefault
          intro hitem
          exact hdefault (by rw [← hitem, h]; rfl)

/-- What the record gives does not keep null out of a column that must not be null. -/
theorem not_valuesSql_ne_null :
    ¬ ∀ (schema : Schema) (record : List (String × Value)) (text : String),
      (∀ column ∈ schema.columns, column.defaultSql ≠ some Literal.null) →
      (schema.valuesSql record).outcome = .ok (some text) →
      ∃ items, text = "values(" ++ ", ".intercalate items ++ ")" ∧
        List.Forall₂ (fun column item => column.notNull = true → item ≠ Literal.null)
          schema.columns items := by
  intro h
  have hdefaults : ∀ column ∈ (ofColumns [⟨0, "n", "INT", none, none, true, false⟩]).columns,
      column.defaultSql ≠ some Literal.null := by decide
  obtain ⟨items, htext, hitems⟩ := h (ofColumns [⟨0, "n", "INT", none, none, true, false⟩])
    [("n", .text "apples")] "values(null)" hdefaults rfl
  cases hitems with
  | @cons _ item _ _ hne hrest =>
      cases hrest
      have hchars : item.toList ++ [')'] = Literal.null.toList ++ [')'] := by
        simpa [Literal.null] using (congrArg String.toList htext).symm
      exact hne rfl (String.toList_inj.mp (List.append_cancel_right hchars))

end Schema

/-! ### Insertions -/

namespace Table

open Schema

variable {σ : Type} {table : Table} {record : List (String × Value)}

/-- A refused insertion asks nothing of the shell. -/
theorem insert_refused (h : (table.schema.valuesSql record).outcome = .ok none)
    (executor : Executor σ) (s : σ) :
    (table.insert record).calls executor s = [] ∧
      ((table.insert record).run executor s).1.outcome = .ok false := by
  have hstatement : (table.statement .insert (.filter []) [] record).outcome = .ok none := by
    rw [statement, Report.outcome_bind, h]
    rfl
  constructor
  · rw [insert, change, Dialogue.calls_bind_of_quiet executor s fun _ _ => rfl, calls_run,
      hstatement]
  · rw [insert, change, Dialogue.outcome_run_bind, outcome_run, hstatement]
    rfl

/-- **Null in a column that must not be null is the column's own.**  Where no default is null,
an insertion is refused, without a call, exactly if such a column is given null or nothing
before any value that has no literal.  In any other insertion its item is null exactly if the
column writes the value of the record as null. -/
theorem insert_notNull
    (hdefaults : ∀ column ∈ table.schema.columns, column.defaultSql ≠ some Literal.null)
    (record : List (String × Value)) (executor : Executor σ) (s : σ) :
    ((table.schema.valuesSql record).outcome = .ok none ↔
      Reaches (fun column => ¬ Misfits record column) (Withheld record) table.schema.columns) ∧
    ((table.schema.valuesSql record).outcome = .ok none →
      (table.insert record).calls executor s = [] ∧
        ((table.insert record).run executor s).1.outcome = .ok false) ∧
    ∀ text, (table.schema.valuesSql record).outcome = .ok (some text) →
      ∃ items, text = "values(" ++ ", ".intercalate items ++ ")" ∧
        List.Forall₂ (fun column item => IsInsertItem record column item ∧
          (column.notNull = true → (item = Literal.null ↔ Nullifies record column)))
          table.schema.columns items := by
  refine ⟨valuesSql_eq_none, fun h => insert_refused h executor s, ?_⟩
  intro text htext
  obtain ⟨items, hgiven, hitems, rfl⟩ := valuesSql_eq_some.mp htext
  refine ⟨items, rfl, ?_⟩
  have hboth := (List.forall₂_and_left _ _).mpr ⟨fun column hcolumn =>
    And.intro (hgiven column hcolumn) (hdefaults column hcolumn), hitems⟩
  refine hboth.imp ?_
  intro column item h
  obtain ⟨⟨hgiven, hdefault⟩, hitem⟩ := h
  exact ⟨hitem, hitem.eq_null_iff hgiven hdefault⟩

/-- A record without a name is refused, and one with a word for a number is not. -/
theorem insert_notNull_word :
    ((insert ⟨"main.db", "t", .ofColumns [⟨0, "n", "INT", none, some "0", true, false⟩,
        ⟨1, "name", "text", none, none, true, false⟩]⟩ [("n", .text "apples")]).run
      Rehearsal.executor ⟨[], []⟩).1.outcome = .ok false ∧
    Nullifies [("n", .text "apples"), ("name", .text "x")]
      ⟨0, "n", "INT", none, some "0", true, false⟩ := by
  let table : Table := ⟨"main.db", "t", .ofColumns [⟨0, "n", "INT", none, some "0", true, false⟩,
    ⟨1, "name", "text", none, none, true, false⟩]⟩
  have hdefaults : ∀ column ∈ table.schema.columns, column.defaultSql ≠ some Literal.null := by
    decide
  obtain ⟨-, hrefused, -⟩ :=
    insert_notNull hdefaults [("n", .text "apples")] Rehearsal.executor ⟨[], []⟩
  obtain ⟨-, -, hlisted⟩ := insert_notNull hdefaults [("n", .text "apples"), ("name", .text "x")]
    Rehearsal.executor ⟨[], []⟩
  refine ⟨(hrefused rfl).2, ?_⟩
  obtain ⟨items, -, hitems⟩ := hlisted "values(null, 'x')" rfl
  cases hitems with
  | cons hfirst _ =>
      obtain ⟨hitem, hnull⟩ := hfirst
      have hword : IsInsertItem [("n", .text "apples"), ("name", .text "x")]
          ⟨0, "n", "INT", none, some "0", true, false⟩ Literal.null := rfl
      exact (hnull rfl).mp (Except.ok.inj (hitem.symm.trans hword))

end Table

end RowShell
