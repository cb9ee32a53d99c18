/-
The order of a listing does not matter.

The rows of a listing carry the places of their columns, and a schema is made from the rows sorted
by place.  If no two rows have one place, there is only one such order, so listings of the same
rows give the same schema, or are refused in the same way.

The schema then has a column for every row, in the order of the places, unless two rows have one
name: a later row takes the place of an earlier one there, and a column is lost.  What is built
from the columns one by one, the default projection and the values of an insertion, follows the
places too.
-/
import Mathlib.Data.List.Perm.Basic
import RowShell.Proofs.Schema.Mutation
import RowShell.Schema.Projection

namespace RowShell

open Outcome

namespace ColumnRow

variable {rows rows' : List ColumnRow}

/-! ### Rows and columns -/

/-- The column is that of the row. -/
structure Describes (row : ColumnRow) (column : Column) : Prop where
  name : column.name = row.name
  place : column.cid = row.cid
  declaration : Declaration.read row.declared = .ok ⟨column.base, column.size⟩
  category : column.category = .ofDeclared column.base
  defaultSql : column.defaultSql = row.defaultSql
  notNull : column.notNull = true ↔ row.notNull ≠ 0
  primaryKey : column.primaryKey = true ↔ row.primaryKey ≠ 0

theorem describes_of_column {row : ColumnRow} {column : Column} (h : row.column = .ok column) :
    row.Describes column := by
  obtain ⟨declaration, hdeclaration, heq⟩ := bind_eq_ok.mp h
  cases heq
  exact ⟨rfl, rfl, hdeclaration, rfl, rfl, by simp, by simp⟩

/-- Rows have columns of the same names. -/
theorem map_name_of_forall₂ {columns : List Column} (h : List.Forall₂ Describes rows columns) :
    columns.map Column.name = rows.map ColumnRow.name := by
  induction h with
  | nil => rfl
  | cons hrow _ ih => rw [List.map_cons, List.map_cons, ih, hrow.name]

/-! ### Places -/

/-- The rows in the order of their places. -/
def inOrder (rows : List ColumnRow) : List ColumnRow := rows.mergeSort fun a b => a.cid ≤ b.cid

theorem inOrder_perm (rows : List ColumnRow) : (inOrder rows).Perm rows := List.mergeSort_perm _ _

/-- Places that are distinct ascend strictly. -/
theorem pairwise_inOrder (hplaces : (rows.map cid).Nodup) :
    (inOrder rows).Pairwise fun row next => row.cid < next.cid := by
  have hle : (inOrder rows).Pairwise fun row next => decide (row.cid ≤ next.cid) = true := by
    apply List.pairwise_mergeSort
    · intro a b c hab hbc
      simp only [decide_eq_true_eq] at hab hbc ⊢
      omega
    · intro a b
      simp only [Bool.or_eq_true, decide_eq_true_eq]
      omega
  have hne : (inOrder rows).Pairwise fun row next => row.cid ≠ next.cid := by
    rw [← List.pairwise_map]
    exact ((inOrder_perm rows).map cid).nodup_iff.mpr hplaces
  refine (hle.and hne).imp ?_
  intro row next h
  simp only [decide_eq_true_eq] at h
  omega

/-- **Rows with distinct places have one order**, whichever they are listed in. -/
theorem inOrder_eq_of_perm (hplaces : (rows.map cid).Nodup) (hperm : rows.Perm rows') :
    inOrder rows' = inOrder rows := by
  have hplaces' : (rows'.map cid).Nodup := (hperm.map cid).nodup_iff.mp hplaces
  have hsame : (inOrder rows').Perm (inOrder rows) :=
    ((inOrder_perm rows').trans hperm.symm).trans (inOrder_perm rows).symm
  refine List.Perm.eq_of_pairwise ?_ (pairwise_inOrder hplaces') (pairwise_inOrder hplaces) hsame
  intro a b _ _ hab hba
  omega

/-! ### Listings -/

theorem mapM_ofValue?_eq_some {values : List Value} :
    values.mapM ofValue? = some rows ↔
      List.Forall₂ (fun value row => ofValue? value = some row) values rows := by
  induction values generalizing rows with
  | nil => simp [eq_comm]
  | cons value rest ih =>
      simp only [List.mapM_cons, List.forall₂_cons_left_iff, Option.bind_eq_bind,
        Option.bind_eq_some_iff, ih, Option.pure_def, Option.some_inj]
      constructor
      · intro h
        obtain ⟨row, hrow, others, hothers, rfl⟩ := h
        exact ⟨row, others, hrow, hothers, rfl⟩
      · intro h
        obtain ⟨row, others, hrow, hothers, rfl⟩ := h
        exact ⟨row, hrow, others, hothers, rfl⟩

/-- Listings of the same values describe the same rows, in another order. -/
theorem exists_listing?_of_perm {values values' : List Value} (hperm : values.Perm values')
    (hrows : listing? (.list values) = some rows) :
    ∃ rows', listing? (.list values') = some rows' ∧ rows.Perm rows' := by
  obtain ⟨rows', hrows', hperm'⟩ :=
    List.perm_comp_forall₂ hperm.symm (mapM_ofValue?_eq_some.mp hrows)
  exact ⟨rows', mapM_ofValue?_eq_some.mpr hrows', hperm'.symm⟩

/-- The item of an insertion for the column of the row. -/
def GivesItem (record : List (String × Value)) (row : ColumnRow) (item : String) : Prop :=
  ∃ column, row.Describes column ∧ Schema.IsInsertItem record column item

theorem forall₂_givesItem {record : List (String × Value)} {columns : List Column}
    {items : List String} (hcolumns : List.Forall₂ Describes rows columns)
    (hitems : List.Forall₂ (Schema.IsInsertItem record) columns items) :
    List.Forall₂ (GivesItem record) rows items := by
  induction hcolumns generalizing items with
  | nil =>
      cases hitems
      exact .nil
  | cons hrow _ ih =>
      cases hitems with
      | cons hitem hrest => exact .cons ⟨_, hrow, hitem⟩ (ih hrest)

end ColumnRow

namespace Schema

variable {rows rows' : List ColumnRow} {schema : Schema}

theorem ofRows_eq_of_perm (hplaces : (rows.map ColumnRow.cid).Nodup) (hperm : rows.Perm rows') :
    ofRows rows' = ofRows rows := by
  have horder := ColumnRow.inOrder_eq_of_perm hplaces hperm
  unfold ColumnRow.inOrder at horder
  rw [ofRows, ofRows, horder]

/-- **Rows of distinct names have one column each**, in the order of their places. -/
theorem describes_of_ofRows (hnames : (rows.map ColumnRow.name).Nodup)
    (h : ofRows rows = .ok schema) :
    List.Forall₂ ColumnRow.Describes (ColumnRow.inOrder rows) schema.columns := by
  obtain ⟨columns, hcolumns, heq⟩ := bind_eq_ok.mp h
  cases heq
  have hdescribes : List.Forall₂ ColumnRow.Describes (ColumnRow.inOrder rows) columns :=
    (mapM_eq_ok.mp hcolumns).imp fun _ _ => ColumnRow.describes_of_column
  have hdistinct : (columns.map Column.name).Nodup := by
    rw [ColumnRow.map_name_of_forall₂ hdescribes]
    exact ((ColumnRow.inOrder_perm rows).map ColumnRow.name).nodup_iff.mpr hnames
  have hcolumns : (ofColumns columns).columns = columns :=
    Keyed.ofList_eq_self Column.name hdistinct
  rw [hcolumns]
  exact hdescribes

/-- **A schema does not depend on the order of its listing.**  Listings of the same rows with
distinct places give the same schema, or are refused in the same way.  If the names are distinct
too, the schema has one column for every row, in the order of the places, and the columns are
selected and given values in that order. -/
theorem ofListing_perm {values values' : List Value}
    (hrows : ColumnRow.listing? (.list values) = some rows)
    (hplaces : (rows.map ColumnRow.cid).Nodup) (hperm : values.Perm values') :
    ofListing (.list values') = ofListing (.list values) ∧
    (∀ text text', Json.read .strict text = .ok (.list values) →
      Json.read .strict text' = .ok (.list values') → ofText text' = ofText text) ∧
    ∀ schema, ofListing (.list values) = .ok schema → (rows.map ColumnRow.name).Nodup →
      ∃ ordered, ordered.Perm rows ∧ (ordered.Pairwise fun row next => row.cid < next.cid) ∧
        List.Forall₂ ColumnRow.Describes ordered schema.columns ∧
        (schema.projectionSql []).outcome =
          .ok (", ".intercalate ("rowid" :: ordered.map ColumnRow.name)) ∧
        ∀ record text, (schema.valuesSql record).outcome = .ok (some text) →
          ∃ items, List.Forall₂ (ColumnRow.GivesItem record) ordered items ∧
            text = "values(" ++ ", ".intercalate items ++ ")" := by
  have hlisting : ofListing (.list values) = ofRows rows := by
    rw [ofListing, hrows]
  have hsame : ofListing (.list values') = ofListing (.list values) := by
    obtain ⟨rows', hrows', hperm'⟩ := ColumnRow.exists_listing?_of_perm hperm hrows
    rw [hlisting, ofListing, hrows']
    exact ofRows_eq_of_perm hplaces hperm'
  refine ⟨hsame, ?_, ?_⟩
  · intro text text' htext htext'
    rw [ofText, ofText, htext, htext']
    exact hsame
  · intro schema hschema hnames
    rw [hlisting] at hschema
    have hcolumns := describes_of_ofRows hnames hschema
    refine ⟨ColumnRow.inOrder rows, ColumnRow.inOrder_perm rows,
      ColumnRow.pairwise_inOrder hplaces, hcolumns, ?_, ?_⟩
    · show Except.ok (", ".intercalate (rowid :: schema.columns.map Column.name)) = _
      rw [ColumnRow.map_name_of_forall₂ hcolumns, rowid]
    · intro record text htext
      obtain ⟨items, -, hitems, rfl⟩ := valuesSql_eq_some.mp htext
      exact ⟨items, ColumnRow.forall₂_givesItem hcolumns hitems, rfl⟩

/-- Two rows listed against their places, which are given in different ways. -/
theorem ofListing_perm_reversed :
    let title : Value := .map [("cid", .text "1"), ("name", .text "title"),
      ("type", .text "varchar(10)"), ("notnull", .int 1)]
    let number : Value := .map [("cid", .bool false), ("name", .text "number"),
      ("type", .text "integer"), ("pk", .int 1)]
    let rows : List ColumnRow :=
      [⟨1, "title", "varchar(10)", 1, none, 0⟩, ⟨0, "number", "integer", 0, none, 1⟩]
    ColumnRow.listing? (.list [title, number]) = some rows ∧ (rows.map ColumnRow.cid).Nodup ∧
      (rows.map ColumnRow.name).Nodup ∧
      ∃ schema, ofListing (.list [title, number]) = .ok schema ∧
        ofListing (.list [number, title]) = .ok schema ∧
        ∃ ordered, ordered.Perm rows ∧ (ordered.Pairwise fun row next => row.cid < next.cid) ∧
          List.Forall₂ ColumnRow.Describes ordered schema.columns := by
  intro title number rows
  have hrows : ColumnRow.listing? (.list [title, number]) = some rows := rfl
  have hplaces : (rows.map ColumnRow.cid).Nodup := by decide
  have hnames : (rows.map ColumnRow.name).Nodup := by decide
  have hsorted : (rows.mergeSort fun a b => a.cid ≤ b.cid) =
      [⟨0, "number", "integer", 0, none, 1⟩, ⟨1, "title", "varchar(10)", 1, none, 0⟩] := by
    simp [rows, List.mergeSort]
  have hmade : ofListing (.list [title, number]) = .ok (ofColumns
      [⟨0, "number", "integer", none, none, false, true⟩,
        ⟨1, "title", "varchar", some 10, none, true, false⟩]) := by
    rw [ofListing, hrows]
    dsimp only
    rw [ofRows, hsorted]
    rfl
  obtain ⟨hsame, -, hcolumns⟩ := ofListing_perm hrows hplaces (List.Perm.swap number title [])
  obtain ⟨ordered, hperm, hascending, hdescribes, -⟩ := hcolumns _ hmade hnames
  exact ⟨hrows, hplaces, hnames, _, hmade, hsame.trans hmade, ordered, hperm, hascending,
    hdescribes⟩

end Schema

end RowShell
