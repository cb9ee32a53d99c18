/-
What fails between a schema and its values.

Whatever is done with a schema goes through the literals of its columns or through the
reading of printed values, so it fails exactly if one of those does for some entry on a
column of the schema.  Entries on other columns are passed over unread.  A where clause
and an update meet every entry; an insertion goes through the columns in order and ends
without fault at the first one that must not be null and has no value.

A column listing fails on a size bound of too many digits and on nothing else.
-/
import RowShell.Proofs.Column.Failure
import RowShell.Proofs.Schema.WhereClause
import RowShell.Schema.Mutation
import RowShell.Schema.Rows

namespace RowShell

open Outcome

namespace Schema

variable {schema : Schema} {selection : Selection} {record : List (String × Value)}

/-- Some entry is on a column of the schema and stands in a relation to it. -/
def Holds (schema : Schema) (p : Column → Value → Prop) (entries : List (String × Value)) : Prop :=
  ∃ entry ∈ entries, ∃ column, schema.find? entry.1 = some column ∧ p column entry.2

/-! ### Selections -/

/-- The selection is a filter with an operand that its column cannot take. -/
def Unselectable (schema : Schema) (selection : Selection) : Prop :=
  ∃ filter, selection.filter? = .ok filter ∧
    schema.Holds Column.Unwritable (Filter.operands filter)

theorem lacksLiteral_iff {entry : String × Value} :
    schema.LacksLiteral entry ↔
      ∃ column, schema.find? entry.1 = some column ∧ column.Unwritable entry.2 := by
  simp only [LacksLiteral, Column.fails_literal]

theorem unrefused_comparison (schema : Schema) (name sign : String) (operand : Value) :
    Unrefused (schema.comparison name sign operand).outcome := by
  unfold comparison
  cases schema.find? name with
  | none => exact unrefused_ok _
  | some column =>
      rw [Report.outcome_bind]
      exact unrefused_bind (column.unrefused_literal operand) fun _ => unrefused_ok _

mutual

theorem unrefused_clauseConditions : ∀ clause : Clause,
    Unrefused (schema.clauseConditions clause).outcome
  | .equals name operand => by
      rw [clauseConditions]
      exact schema.unrefused_comparison name "=" operand
  | .compares name comparisons => by
      rw [clauseConditions, Report.outcome_bind, Report.outcome_mapM]
      refine unrefused_bind (unrefused_mapM ?_) fun _ => unrefused_ok _
      intro entry
      exact schema.unrefused_comparison name entry.1.sql entry.2
  | .anyOf branches => by
      rw [clauseConditions, Report.outcome_bind]
      exact unrefused_bind (unrefused_branchConditions branches) fun _ => unrefused_ok _

theorem unrefused_conditions : ∀ filter : List Clause,
    Unrefused (schema.conditions filter).outcome
  | [] => by
      rw [conditions]
      exact unrefused_ok _
  | clause :: rest => by
      rw [outcome_conditions_cons]
      exact unrefused_bind (unrefused_clauseConditions clause) fun _ =>
        unrefused_bind (unrefused_conditions rest) fun _ => unrefused_ok _

theorem unrefused_branchConditions : ∀ branches : List (List Clause),
    Unrefused (schema.branchConditions branches).outcome
  | [] => by
      rw [branchConditions]
      exact unrefused_ok _
  | branch :: rest => by
      rw [outcome_branchConditions_cons]
      exact unrefused_bind (unrefused_conditions branch) fun _ =>
        unrefused_bind (unrefused_branchConditions rest) fun _ => unrefused_ok _

end

/-- What is no filter is refused. -/
theorem not_escapes_filter? : ¬ Escapes selection.filter? := by
  cases selection with
  | filter clauses => exact not_escapes_ok clauses
  | document value =>
      unfold Selection.filter?
      dsimp only
      split
      · unfold Filter.read
        cases Filter.ofValue value with
        | error cause => exact not_escapes_refusal rfl
        | ok filter => exact not_escapes_ok filter
      · exact not_escapes_ok []

/-- **A fault of a where clause that is no refusal is an operand that its column cannot
take.** -/
theorem escapes_whereSql :
    Escapes (schema.whereSql selection).outcome ↔ schema.Unselectable selection := by
  rw [outcome_whereSql, escapes_bind, or_iff_right not_escapes_filter?]
  refine exists_congr fun filter => and_congr_right fun _ => ?_
  refine escapes_bind_ok.trans ?_
  rw [escapes_iff_fails (unrefused_conditions filter), fails_conditions]
  simp only [lacksLiteral_iff, Holds]

/-! ### Insertions -/

/-- A column that must not be null, with null or nothing to put there. -/
def Withheld (record : List (String × Value)) (column : Column) : Prop :=
  column.notNull = true ∧ (Keyed.value? column.name record = some .null ∨
    (Keyed.value? column.name record = none ∧ column.defaultSql = none))

/-- The record has a value for the column that the column cannot take. -/
def Misfits (record : List (String × Value)) (column : Column) : Prop :=
  ∃ value, Keyed.value? column.name record = some value ∧ column.Unwritable value

theorem fails_insertItem {column : Column} :
    Fails (insertItem record column).outcome ↔ Misfits record column := by
  unfold insertItem Misfits
  split
  · next hvalue =>
      rw [hvalue]
      refine iff_of_false ?_ ?_
      · split
        · exact not_fails_ok _
        · exact not_fails_ok _
      · intro h
        obtain ⟨value, heq, h⟩ := h
        cases heq
        exact column.not_unwritable_null h
  · next value _ hvalue =>
      rw [hvalue, Report.outcome_bind]
      refine (fails_bind_ok.trans Column.fails_literal).trans ?_
      simp only [Option.some_inj, exists_eq_left']
  · next hvalue _ =>
      rw [hvalue]
      exact iff_of_false (not_fails_ok _) nofun
  · next hvalue _ =>
      rw [hvalue]
      refine iff_of_false ?_ nofun
      split
      · exact not_fails_ok _
      · exact not_fails_ok _

theorem insertItem_eq_none {column : Column} :
    (insertItem record column).outcome = .ok none ↔ Withheld record column := by
  unfold insertItem Withheld
  split
  · next hvalue =>
      rw [hvalue]
      by_cases hnull : column.notNull = true
      · simp [hnull, Except.map]
      · simp [hnull]
  · next value hnull hvalue =>
      rw [hvalue, Report.outcome_bind]
      refine iff_of_false ?_ ?_
      · intro h
        obtain ⟨literal, -, heq⟩ := bind_eq_ok.mp h
        cases heq
      · intro h
        rcases h with ⟨-, h | ⟨h, -⟩⟩
        · cases h
          exact hnull rfl
        · cases h
  · next hvalue hdefault =>
      simp [hvalue, hdefault]
  · next hvalue hdefault =>
      rw [hvalue, hdefault]
      by_cases hnull : column.notNull = true
      · simp [hnull, Except.map]
      · simp [hnull]

/-- **An insertion fails if a column cannot take its value and no column before it is
withheld.** -/
theorem fails_insertItems {columns : List Column} :
    Fails (insertItems record columns).outcome ↔
      Reaches (fun column => ¬ Withheld record column) (Misfits record) columns := by
  induction columns with
  | nil => exact iff_of_false (not_fails_ok _) not_reaches_nil
  | cons column rest ih =>
      rw [insertItems, Report.outcome_bind, reaches_cons, fails_bind, fails_insertItem, ← ih]
      refine or_congr_right' fun hmisfits => ?_
      rw [← insertItem_eq_none]
      obtain ⟨item?, hitem⟩ := not_fails_iff.mp (mt fails_insertItem.mp hmisfits)
      rw [hitem]
      cases item? with
      | none => simp
      | some item => simp

theorem fails_valuesSql :
    Fails (schema.valuesSql record).outcome ↔
      Reaches (fun column => ¬ Withheld record column) (Misfits record) schema.columns := by
  rw [valuesSql, Report.outcome_bind]
  exact fails_bind_ok.trans fails_insertItems

/-! ### Updates -/

theorem fails_assignments :
    Fails (schema.assignments record).outcome ↔ schema.Holds Column.Unwritable record := by
  induction record with
  | nil => exact iff_of_false (not_fails_ok _) (by simp [Holds])
  | cons entry rest ih =>
      obtain ⟨name, value⟩ := entry
      have hholds : schema.Holds Column.Unwritable ((name, value) :: rest) ↔
          (∃ column, schema.find? name = some column ∧ column.Unwritable value) ∨
            schema.Holds Column.Unwritable rest := by
        simp [Holds]
      rw [hholds, ← ih, assignments]
      cases hfind : schema.find? name with
      | none => simp
      | some column =>
          rw [Report.outcome_bind, fails_bind_const (p := Fails (schema.assignments rest).outcome),
            Column.fails_literal]
          · simp
          · intro literal
            rw [Report.outcome_bind]
            exact fails_bind_ok

/-- Some key of the record names a column. -/
def NamesColumn (schema : Schema) (record : List (String × Value)) : Prop :=
  ∃ entry ∈ record, schema.contains entry.1 = true

theorem assignments_eq_nil {items : List String}
    (h : (schema.assignments record).outcome = .ok items) :
    items = [] ↔ ¬ schema.NamesColumn record := by
  induction record generalizing items with
  | nil =>
      cases h
      simp [NamesColumn]
  | cons entry rest ih =>
      obtain ⟨name, value⟩ := entry
      rw [assignments] at h
      cases hfind : schema.find? name with
      | none =>
          rw [hfind] at h
          simp only [Report.outcome_bind, Report.outcome_entry, ok_bind] at h
          rw [ih h]
          simp [NamesColumn, contains, hfind]
      | some column =>
          rw [hfind, Report.outcome_bind] at h
          obtain ⟨literal, -, h⟩ := bind_eq_ok.mp h
          rw [Report.outcome_bind] at h
          obtain ⟨others, -, heq⟩ := bind_eq_ok.mp h
          cases heq
          simp [NamesColumn, contains, hfind]

theorem fails_setSql :
    Fails (schema.setSql record).outcome ↔ schema.Holds Column.Unwritable record := by
  rw [setSql, Report.outcome_bind, ← fails_assignments,
    fails_bind_const (p := False), or_false]
  intro items
  refine iff_of_false ?_ id
  split
  · exact not_fails_ok _
  · exact not_fails_ok _

/-- An update gives no column a value exactly if its record names none. -/
theorem setSql_eq_ok {items? : Option String} (h : (schema.setSql record).outcome = .ok items?) :
    items? = none ↔ ¬ schema.NamesColumn record := by
  rw [setSql, Report.outcome_bind] at h
  obtain ⟨items, hitems, h⟩ := bind_eq_ok.mp h
  rw [← assignments_eq_nil hitems]
  cases items with
  | nil =>
      cases h
      simp
  | cons item rest =>
      cases h
      simp

/-! ### Rows -/

/-- The output is a list of rows, and it holds a whole number of too many digits or a row
with a value that its column cannot give back. -/
def Unreadable (schema : Schema) (output : String) : Prop :=
  Text.strip output ≠ "" ∧ (Json.read .lenient output = .error .longNumeral ∨
    ∃ items rows, Json.read .lenient output = .ok (.list items) ∧ rowEntries? items = some rows ∧
      ∃ row ∈ rows, schema.Holds Column.Undecodable row)

theorem unrefused_decodeEntry (entry : String × Value) : Unrefused (schema.decodeEntry entry) := by
  obtain ⟨key, value⟩ := entry
  unfold decodeEntry
  dsimp only
  split
  · exact unrefused_ok _
  · exact unrefused_bind (Column.unrefused_decode _ _) fun _ => unrefused_ok _

theorem fails_decodeEntry {entry : String × Value} :
    Fails (schema.decodeEntry entry) ↔
      ∃ column, schema.find? entry.1 = some column ∧ column.Undecodable entry.2 := by
  obtain ⟨key, value⟩ := entry
  unfold decodeEntry
  dsimp only
  cases hfind : schema.find? key with
  | none => exact iff_of_false (not_fails_ok _) nofun
  | some column =>
      refine (fails_bind_ok.trans Column.fails_decode).trans ?_
      simp only [Option.some_inj, exists_eq_left']

theorem escapes_decodeRows {rows : List (List (String × Value))} :
    Escapes (rows.mapM fun row => row.mapM schema.decodeEntry) ↔
      ∃ row ∈ rows, schema.Holds Column.Undecodable row := by
  rw [escapes_iff_fails (unrefused_mapM fun row => unrefused_mapM unrefused_decodeEntry), fails_mapM]
  simp only [fails_mapM, fails_decodeEntry, Holds]

/-- **A fault of reading a query result that is no refusal is a value that its column cannot
give back, or a whole number of too many digits.** -/
theorem escapes_readRows {output : String} :
    Escapes (schema.readRows output) ↔ schema.Unreadable output := by
  unfold readRows Unreadable
  by_cases hblank : Text.strip output = ""
  · rw [if_pos (by simp [hblank])]
    exact iff_of_false (not_escapes_ok []) fun h => h.1 hblank
  rw [if_neg (by simpa using hblank), and_iff_right hblank]
  cases Json.read .lenient output with
  | error refusal =>
      cases refusal with
      | malformed => exact iff_of_false (not_escapes_refusal rfl) (by simp)
      | longNumeral => exact iff_of_true ⟨.longNumeral, rfl, rfl⟩ (.inl rfl)
  | ok value =>
      cases value with
      | list items =>
          dsimp only
          cases hrows : rowEntries? items with
          | none => exact iff_of_false (not_escapes_refusal rfl) (by simp [hrows])
          | some rows =>
              refine escapes_decodeRows.trans ?_
              simp [hrows]
      | _ => exact iff_of_false (not_escapes_refusal rfl) (by simp)

end Schema

/-! ### Listings -/

/-- The declared type of the row bounds the size by a number of too many digits. -/
def ColumnRow.Oversized (row : ColumnRow) : Prop :=
  ∃ digits, Declaration.sizeDigits? row.declared.toList = some digits ∧
    Numeral.maxDigits < digits.length

namespace ColumnRow

variable {row : ColumnRow}

theorem unrefused_column (row : ColumnRow) : Unrefused row.column := by
  refine unrefused_bind (unrefused_bind ?_ fun _ => unrefused_ok _) fun _ => unrefused_ok _
  unfold Declaration.sizeOf?
  split
  · exact unrefused_ok _
  · split
    · exact unrefused_ok _
    · exact unrefused_error rfl

theorem fails_column : Fails row.column ↔ row.Oversized := by
  have hsize : Fails row.column ↔ Fails (Declaration.sizeOf? row.declared.toList) :=
    fails_bind_ok.trans fails_bind_ok
  rw [hsize]
  unfold Declaration.sizeOf? Oversized
  cases Declaration.sizeDigits? row.declared.toList with
  | none => exact iff_of_false (not_fails_ok _) nofun
  | some digits =>
      refine Numeral.fails_digits.trans ⟨fun hlong => ⟨digits, rfl, hlong⟩, ?_⟩
      intro h
      obtain ⟨_, heq, hlong⟩ := h
      cases heq
      exact hlong

end ColumnRow

namespace Schema

variable {text : String}

/-- The rows that a listing describes, if it describes any. -/
def Describes (text : String) (rows : List ColumnRow) : Prop :=
  ∃ listing, Json.read .strict text = .ok listing ∧ ColumnRow.listing? listing = some rows

/-- The listing bounds the size of a column by a number of too many digits. -/
def Overlong (text : String) : Prop := ∃ rows, Describes text rows ∧ ∃ row ∈ rows, row.Oversized

/-- The listing is that of a schema. -/
def Accepted (text : String) : Prop := ∃ rows, Describes text rows ∧ ∀ row ∈ rows, ¬ row.Oversized

theorem unrefused_ofRows (rows : List ColumnRow) : Unrefused (ofRows rows) :=
  unrefused_bind (unrefused_mapM ColumnRow.unrefused_column) fun _ => unrefused_ok _

theorem fails_ofRows {rows : List ColumnRow} :
    Fails (ofRows rows) ↔ ∃ row ∈ rows, row.Oversized := by
  refine fails_bind_ok.trans ?_
  rw [fails_mapM]
  simp only [ColumnRow.fails_column, List.mem_mergeSort]

theorem ofText_of_describes {rows : List ColumnRow} (h : Describes text rows) :
    ofText text = ofRows rows := by
  obtain ⟨listing, hread, hrows⟩ := h
  unfold ofText ofListing
  rw [hread]
  dsimp only
  rw [hrows]

/-- What describes no rows is refused. -/
theorem ofText_of_not_describes (h : ∀ rows, ¬ Describes text rows) :
    ofText text = .error .columns := by
  unfold ofText ofListing
  cases hread : Json.read .strict text with
  | error refusal => rfl
  | ok listing =>
      dsimp only
      cases hrows : ColumnRow.listing? listing with
      | none => rfl
      | some rows => exact absurd ⟨listing, hread, hrows⟩ (h rows)

theorem Describes.unique {rows rows' : List ColumnRow} (h : Describes text rows)
    (h' : Describes text rows') : rows = rows' := by
  obtain ⟨listing, hread, hrows⟩ := h
  obtain ⟨listing', hread', hrows'⟩ := h'
  rw [hread] at hread'
  cases hread'
  exact Option.some_inj.mp (hrows.symm.trans hrows')

theorem overlong_iff {rows : List ColumnRow} (h : Describes text rows) :
    Overlong text ↔ ∃ row ∈ rows, row.Oversized := by
  constructor
  · intro h
    obtain ⟨others, hothers, hrow⟩ := h
    rwa [h.unique hothers]
  · intro hrow
    exact ⟨rows, h, hrow⟩

theorem accepted_iff {rows : List ColumnRow} (h : Describes text rows) :
    Accepted text ↔ ∀ row ∈ rows, ¬ row.Oversized := by
  constructor
  · intro h
    obtain ⟨others, hothers, hrows⟩ := h
    rwa [h.unique hothers]
  · intro hrows
    exact ⟨rows, h, hrows⟩

/-- **A fault of reading a column listing that is no refusal is a size bound of too many
digits.** -/
theorem escapes_ofText : Escapes (ofText text) ↔ Overlong text := by
  by_cases h : ∃ rows, Describes text rows
  · obtain ⟨rows, hrows⟩ := h
    rw [ofText_of_describes hrows, overlong_iff hrows, escapes_iff_fails (unrefused_ofRows rows),
      fails_ofRows]
  · rw [ofText_of_not_describes (not_exists.mp h)]
    refine iff_of_false (not_escapes_refusal rfl) ?_
    intro h
    obtain ⟨rows, hrows, -⟩ := h
    exact h ⟨rows, hrows⟩

/-- **A column listing is that of a schema if it describes rows without such a bound.** -/
theorem exists_ofText_eq_ok : (∃ schema, ofText text = .ok schema) ↔ Accepted text := by
  by_cases h : ∃ rows, Describes text rows
  · obtain ⟨rows, hrows⟩ := h
    rw [ofText_of_describes hrows, accepted_iff hrows, ← not_fails_iff, fails_ofRows]
    simp only [not_exists, not_and]
  · rw [ofText_of_not_describes (not_exists.mp h)]
    refine iff_of_false nofun ?_
    intro h
    obtain ⟨rows, hrows, -⟩ := h
    exact h ⟨rows, hrows⟩

end Schema

end RowShell
