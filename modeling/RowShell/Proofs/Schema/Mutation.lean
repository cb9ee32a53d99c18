/-
Insertions and updates, item by item.

An insertion is positional: the shell gives the first item to the first column and so on, and
a single item more or less would move every value after it to another column.  The items are
values of the record, declared defaults that are put in as they stand, and nulls, and any of
them may hold commas.  `mutations_aligned` says that the list is read back with one item for
each column, in order, and an update with one assignment for each entry that names a column.

Which of the three an item is, and when there is no list at all, is said without reference to
the loop that ends early: `insertItems_eq_some` and `insertItems_eq_none`.
-/
import RowShell.Proofs.Keyed
import RowShell.Proofs.Schema.Failure
import RowShell.Proofs.Sql.Items

namespace RowShell.Schema

open Outcome Sql

variable {schema : Schema} {record : List (String × Value)}

/-! ### Columns of the schema -/

theorem find?_of_mem {column : Column} (h : column ∈ schema.columns) :
    schema.find? column.name = some column :=
  Keyed.find?_of_mem Column.name schema.distinct h

/-- Where every value of the record has a literal, no column is given one that it cannot take. -/
theorem not_misfits (hliteral : ∀ entry ∈ record, ¬ schema.LacksLiteral entry) {column : Column}
    (hcolumn : column ∈ schema.columns) : ¬ Misfits record column := by
  intro h
  obtain ⟨value, hvalue, hunwritable⟩ := h
  refine hliteral (column.name, value) (Keyed.mem_of_value? hvalue) ?_
  exact lacksLiteral_iff.mpr ⟨column, find?_of_mem hcolumn, hunwritable⟩

/-! ### Insertions -/

/-- The item of a column: the literal of its value in the record if it has one there, and else
the declared default, and else null. -/
def IsInsertItem (record : List (String × Value)) (column : Column) (item : String) : Prop :=
  match Keyed.value? column.name record with
  | some value => (column.literal value).outcome = .ok item
  | none => item = column.defaultSql.getD Literal.null

theorem insertItem_eq_some {column : Column} {item : String} :
    (insertItem record column).outcome = .ok (some item) ↔
      ¬ Withheld record column ∧ IsInsertItem record column item := by
  by_cases hwithheld : Withheld record column
  · rw [insertItem_eq_none.mpr hwithheld]
    exact iff_of_false (by simp) fun h => h.1 hwithheld
  rw [and_iff_right hwithheld]
  unfold Withheld at hwithheld
  unfold insertItem IsInsertItem
  split
  · next hvalue =>
      have hnull : column.notNull = false := by simpa [hvalue] using hwithheld
      rw [hvalue, hnull]
      simp [Column.literal]
  · next value _ hvalue =>
      rw [hvalue, Report.outcome_bind]
      dsimp only
      cases (column.literal value).outcome with
      | error fault => simp
      | ok literal => simp
  · next sql hvalue hdefault =>
      rw [hvalue, hdefault]
      simp [eq_comm]
  · next hvalue hdefault =>
      have hnull : column.notNull = false := by simpa [hvalue, hdefault] using hwithheld
      rw [hvalue, hdefault, hnull]
      simp [eq_comm]

/-- **There are items exactly if no column is withheld and every column has one.** -/
theorem insertItems_eq_some {columns : List Column} {items : List String} :
    (insertItems record columns).outcome = .ok (some items) ↔
      (∀ column ∈ columns, ¬ Withheld record column) ∧
        List.Forall₂ (IsInsertItem record) columns items := by
  induction columns generalizing items with
  | nil =>
      rw [insertItems, Report.outcome_pure, List.forall₂_nil_left_iff]
      simp [eq_comm]
  | cons column rest ih =>
      rw [insertItems, Report.outcome_bind, bind_eq_ok, List.forall_mem_cons]
      constructor
      · intro h
        obtain ⟨item?, hitem, h⟩ := h
        cases item? with
        | none => cases h
        | some item =>
            rw [Report.outcome_bind] at h
            obtain ⟨others?, hothers, heq⟩ := bind_eq_ok.mp h
            cases others? with
            | none => cases heq
            | some others =>
                cases heq
                obtain ⟨hfirst, hisItem⟩ := insertItem_eq_some.mp hitem
                obtain ⟨hrest, hitems⟩ := ih.mp hothers
                exact ⟨⟨hfirst, hrest⟩, .cons hisItem hitems⟩
      · intro h
        obtain ⟨⟨hfirst, hrest⟩, hitems⟩ := h
        cases hitems with
        | cons hisItem hothers =>
            refine ⟨_, insertItem_eq_some.mpr ⟨hfirst, hisItem⟩, ?_⟩
            rw [Report.outcome_bind, ih.mpr ⟨hrest, hothers⟩]
            rfl

/-- **There are no items exactly if a column is withheld** and no column before it is given a
value that it cannot take. -/
theorem insertItems_eq_none {columns : List Column} :
    (insertItems record columns).outcome = .ok none ↔
      Reaches (fun column => ¬ Misfits record column) (Withheld record) columns := by
  induction columns with
  | nil => exact iff_of_false (by simp [insertItems]) not_reaches_nil
  | cons column rest ih =>
      rw [insertItems, Report.outcome_bind, reaches_cons, ← ih, ← insertItem_eq_none,
        ← fails_insertItem]
      rcases (insertItem record column).outcome with fault | (- | item)
      · simp
      · exact iff_of_true rfl (.inl rfl)
      · rw [ok_bind, Report.outcome_bind]
        cases (insertItems record rest).outcome with
        | error fault => simp
        | ok items? => cases items? <;> simp

theorem valuesSql_eq_none :
    (schema.valuesSql record).outcome = .ok none ↔
      Reaches (fun column => ¬ Misfits record column) (Withheld record) schema.columns := by
  rw [← insertItems_eq_none, valuesSql, Report.outcome_bind]
  cases (insertItems record schema.columns).outcome with
  | error fault => simp
  | ok items? => cases items? <;> simp

theorem valuesSql_eq_some {text : String} :
    (schema.valuesSql record).outcome = .ok (some text) ↔
      ∃ items, (∀ column ∈ schema.columns, ¬ Withheld record column) ∧
        List.Forall₂ (IsInsertItem record) schema.columns items ∧
        text = "values(" ++ ", ".intercalate items ++ ")" := by
  rw [valuesSql, Report.outcome_bind, bind_eq_ok]
  constructor
  · intro h
    obtain ⟨items?, hitems, heq⟩ := h
    cases items? with
    | none => cases heq
    | some items =>
        cases heq
        obtain ⟨hwithheld, hall⟩ := insertItems_eq_some.mp hitems
        exact ⟨items, hwithheld, hall, rfl⟩
  · intro h
    obtain ⟨items, hwithheld, hall, rfl⟩ := h
    exact ⟨some items, insertItems_eq_some.mpr ⟨hwithheld, hall⟩, rfl⟩

/-- Every declared default may be an item of a list. -/
def ItemDefaults (schema : Schema) : Prop :=
  ∀ column ∈ schema.columns, ∀ sql, column.defaultSql = some sql → Item sql.toList

/-- An item that is not the declared default is a literal. -/
theorem IsInsertItem.isLiteral_or {column : Column} {item : String}
    (h : IsInsertItem record column item) : IsLiteral item ∨ column.defaultSql = some item := by
  unfold IsInsertItem at h
  split at h
  · exact .inl (Column.isLiteral_of_outcome h)
  · cases hsql : column.defaultSql with
    | none =>
        rw [hsql] at h
        subst h
        exact .inl .null
    | some sql =>
        rw [hsql] at h
        subst h
        exact .inr rfl

theorem IsInsertItem.item {column : Column} {item : String} (h : IsInsertItem record column item)
    (hdefault : ∀ sql, column.defaultSql = some sql → Item sql.toList) : Item item.toList := by
  rcases h.isLiteral_or with hliteral | hsql
  · exact item_literal hliteral
  · exact hdefault item hsql

/-! ### Updates -/

/-- The assignment of an entry that names a column. -/
def IsAssignment (schema : Schema) (entry : String × Value) (item : String) : Prop :=
  ∃ column literal, schema.find? entry.1 = some column ∧
    (column.literal entry.2).outcome = .ok literal ∧ item = entry.1 ++ " = " ++ literal

/-- The entries of a record that name columns. -/
def known (schema : Schema) (record : List (String × Value)) : List (String × Value) :=
  record.filter fun entry => schema.contains entry.1

theorem known_cons_of_pos {entry : String × Value} (h : schema.contains entry.1 = true)
    (rest : List (String × Value)) : schema.known (entry :: rest) = entry :: schema.known rest :=
  List.filter_cons_of_pos h

theorem known_cons_of_neg {entry : String × Value} (h : ¬ schema.contains entry.1 = true)
    (rest : List (String × Value)) : schema.known (entry :: rest) = schema.known rest :=
  List.filter_cons_of_neg h

theorem assignments_eq_ok {items : List String}
    (h : (schema.assignments record).outcome = .ok items) :
    List.Forall₂ schema.IsAssignment (schema.known record) items := by
  induction record generalizing items with
  | nil =>
      cases h
      exact .nil
  | cons entry rest ih =>
      obtain ⟨name, value⟩ := entry
      rw [assignments] at h
      cases hfind : schema.find? name with
      | none =>
          rw [hfind, Report.outcome_bind] at h
          rw [known_cons_of_neg (by simp [contains, hfind])]
          exact ih h
      | some column =>
          rw [hfind, Report.outcome_bind] at h
          obtain ⟨literal, hliteral, h⟩ := bind_eq_ok.mp h
          rw [Report.outcome_bind] at h
          obtain ⟨others, hothers, heq⟩ := bind_eq_ok.mp h
          cases heq
          rw [known_cons_of_pos (by simp [contains, hfind])]
          exact .cons ⟨column, literal, hfind, hliteral, rfl⟩ (ih hothers)

theorem IsAssignment.item (hplain : schema.Plain) {entry : String × Value} {item : String}
    (h : schema.IsAssignment entry item) : Item item.toList := by
  obtain ⟨column, literal, hfind, hliteral, rfl⟩ := h
  have hvalue := item_literal (Column.isLiteral_of_outcome hliteral)
  have hsign : ∀ c ∈ " = ".toList, isItemChar c = true := List.all_eq_true.mp (by decide)
  have hname := isItemChar_of_isName (hplain.isName hfind)
  simpa using (hvalue.append_chars hsign).append_chars hname

/-! ### Records that give the same items -/

variable {record' : List (String × Value)}

theorem outcome_insertItems_congr {columns : List Column}
    (h : ∀ column ∈ columns,
      (insertItem record column).outcome = (insertItem record' column).outcome) :
    (insertItems record columns).outcome = (insertItems record' columns).outcome := by
  induction columns with
  | nil => rfl
  | cons column rest ih =>
      obtain ⟨hfirst, hrest⟩ := List.forall_mem_cons.mp h
      rw [insertItems, insertItems, Report.outcome_bind, Report.outcome_bind, hfirst]
      congr
      funext item?
      cases item? with
      | none => rfl
      | some item => rw [Report.outcome_bind, Report.outcome_bind, ih hrest]

theorem outcome_valuesSql_congr (h : ∀ column ∈ schema.columns,
      (insertItem record column).outcome = (insertItem record' column).outcome) :
    (schema.valuesSql record).outcome = (schema.valuesSql record').outcome := by
  rw [valuesSql, valuesSql, Report.outcome_bind, Report.outcome_bind, outcome_insertItems_congr h]

/-- The log of a refused update shows the keys of its record, its outcome does not. -/
theorem outcome_setSql_congr
    (h : (schema.assignments record).outcome = (schema.assignments record').outcome) :
    (schema.setSql record).outcome = (schema.setSql record').outcome := by
  rw [setSql, setSql, Report.outcome_bind, Report.outcome_bind, h]
  congr
  funext items
  cases items <;> rfl

/-! ### Alignment -/

/-- What holds of the item of everything in a list holds of all items. -/
theorem forall_item_of_forall₂ {α : Type} {r : α → String → Prop} {P : String → Prop} {as : List α}
    {items : List String} (h : List.Forall₂ r as items)
    (hitem : ∀ a ∈ as, ∀ item, r a item → P item) : ∀ item ∈ items, P item := by
  induction h with
  | nil => exact nofun
  | cons hr _ ih =>
      refine List.forall_mem_cons.mpr ⟨hitem _ (by simp) _ hr, ih ?_⟩
      intro a ha
      exact hitem a (by simp [ha])

/-- A list that is joined from the items of something is read back. -/
theorem items?_of_forall₂ {α : Type} {r : α → String → Prop} {as : List α} {items : List String}
    (h : List.Forall₂ r as items) (hne : as ≠ [])
    (hitem : ∀ a ∈ as, ∀ item, r a item → Item item.toList) :
    items? (", ".intercalate items).toList = some items := by
  refine items?_intercalate ?_ (forall_item_of_forall₂ h hitem)
  intro heq
  subst heq
  exact hne (List.forall₂_nil_right_iff.mp h)

/-- The entries that name columns are some exactly if the record names a column. -/
theorem known_ne_nil : schema.known record ≠ [] ↔ schema.NamesColumn record := by
  unfold known NamesColumn
  simp [List.filter_eq_nil_iff]

theorem setSql_eq_some {text : String} (h : (schema.setSql record).outcome = .ok (some text)) :
    ∃ items, List.Forall₂ schema.IsAssignment (schema.known record) items ∧
      text = "set " ++ ", ".intercalate items := by
  rw [setSql, Report.outcome_bind] at h
  obtain ⟨items, hitems, h⟩ := bind_eq_ok.mp h
  cases items with
  | nil => cases h
  | cons item rest =>
      cases h
      exact ⟨item :: rest, assignments_eq_ok hitems, rfl⟩

/-- **Insertions and updates are aligned with the columns.**  The list of an insertion is read
back with one item for each column in order, and that of an update with one assignment for each
entry of the record that names a column.  There is no insertion exactly if a column that must
not be null is given null, or nothing and has no default, and no update exactly if no entry
names a column. -/
theorem mutations_aligned (hcolumns : schema.columns ≠ []) (hplain : schema.Plain)
    (hdefaults : schema.ItemDefaults) (hliteral : ∀ entry ∈ record, ¬ schema.LacksLiteral entry) :
    ((schema.valuesSql record).outcome = .ok none ↔
      ∃ column ∈ schema.columns, Withheld record column) ∧
    ((∀ column ∈ schema.columns, ¬ Withheld record column) →
      ∃ list items, (schema.valuesSql record).outcome = .ok (some ("values(" ++ list ++ ")")) ∧
        items? list.toList = some items ∧
        List.Forall₂ (IsInsertItem record) schema.columns items) ∧
    ((schema.setSql record).outcome = .ok none ↔ ¬ schema.NamesColumn record) ∧
    (schema.NamesColumn record →
      ∃ list items, (schema.setSql record).outcome = .ok (some ("set " ++ list)) ∧
        items? list.toList = some items ∧
        List.Forall₂ schema.IsAssignment (schema.known record) items) := by
  have hfits : ∀ column ∈ schema.columns, ¬ Misfits record column :=
    fun column hcolumn => not_misfits hliteral hcolumn
  have hassigns : ¬ Fails (schema.setSql record).outcome := by
    rw [fails_setSql]
    intro h
    obtain ⟨entry, hentry, h⟩ := h
    exact hliteral entry hentry (lacksLiteral_iff.mpr h)
  obtain ⟨assigned?, hassigned⟩ := not_fails_iff.mp hassigns
  have hnone : assigned? = none ↔ ¬ schema.NamesColumn record := setSql_eq_ok hassigned
  refine ⟨?_, ?_, by simpa [hassigned] using hnone, ?_⟩
  · rw [valuesSql_eq_none]
    exact reaches_iff_exists hfits
  · intro hgiven
    have hvalues : ¬ Fails (schema.valuesSql record).outcome := by
      rw [fails_valuesSql, reaches_iff_exists hgiven]
      intro h
      obtain ⟨column, hcolumn, hmisfits⟩ := h
      exact hfits column hcolumn hmisfits
    obtain ⟨text?, htext⟩ := not_fails_iff.mp hvalues
    cases text? with
    | none =>
        rw [valuesSql_eq_none, reaches_iff_exists hfits] at htext
        obtain ⟨column, hcolumn, hwithheld⟩ := htext
        exact absurd hwithheld (hgiven column hcolumn)
    | some text =>
        obtain ⟨items, -, hitems, rfl⟩ := valuesSql_eq_some.mp htext
        refine ⟨_, items, htext, ?_, hitems⟩
        exact items?_of_forall₂ hitems hcolumns fun column hcolumn item hitem =>
          hitem.item (hdefaults column hcolumn)
  · intro hnames
    cases assigned? with
    | none => exact absurd hnames (hnone.mp rfl)
    | some text =>
        obtain ⟨items, hitems, rfl⟩ := setSql_eq_some hassigned
        refine ⟨_, items, hassigned, ?_, hitems⟩
        exact items?_of_forall₂ hitems (known_ne_nil.mpr hnames) fun entry _ item hitem =>
          hitem.item hplain

/-- A comma, a quote and a parenthesis in a value, and a default with commas of both kinds. -/
theorem mutations_aligned_commas :
    let schema := ofColumns
      [.ofType "body" "text" none, ⟨1, "state", "text", none, some "f('a, b', 'c')", true, false⟩]
    let record : List (String × Value) := [("author", .null), ("body", .text "it's, (done")]
    (∃ list, (schema.valuesSql record).outcome = .ok (some ("values(" ++ list ++ ")")) ∧
      items? list.toList = some ["'it''s, (done'", "f('a, b', 'c')"]) ∧
    ∃ list, (schema.setSql record).outcome = .ok (some ("set " ++ list)) ∧
      items? list.toList = some ["body = 'it''s, (done'"] := by
  intro schema record
  have hplain : schema.Plain := by decide
  have hcases : ∀ column ∈ schema.columns, column = .ofType "body" "text" none ∨
      column = ⟨1, "state", "text", none, some "f('a, b', 'c')", true, false⟩ := by
    intro column hcolumn
    have hmem : column ∈ [Column.ofType "body" "text" none,
      ⟨1, "state", "text", none, some "f('a, b', 'c')", true, false⟩] := hcolumn
    simpa using hmem
  have hdefaults : schema.ItemDefaults := by
    intro column hcolumn sql hsql
    rcases hcases column hcolumn with rfl | rfl
    · cases hsql
    · cases hsql
      refine ⟨[.char 'f', .char '(', .quoted "a, b".toList, .char ',', .char ' ',
        .quoted "c".toList, .char ')'], ?_, by decide⟩
      simp [pieces?, quoted?]
  have hliteral : ∀ entry ∈ record, ¬ schema.LacksLiteral entry := by
    rintro entry hmem ⟨column, hfind, fault, hfault⟩
    have hmem' : entry ∈ [("author", Value.null), ("body", .text "it's, (done")] := hmem
    simp only [List.mem_cons, List.not_mem_nil, or_false] at hmem'
    rcases hmem' with rfl | rfl
    · cases hfind
    · cases hfind
      cases hfault
  have hgiven : ∀ column ∈ schema.columns, ¬ Withheld record column := by
    intro column hcolumn h
    obtain ⟨hnotNull, hvalue⟩ := h
    rcases hcases column hcolumn with rfl | rfl
    · cases hnotNull
    · rcases hvalue with hvalue | ⟨-, hdefault⟩
      · cases hvalue
      · cases hdefault
  obtain ⟨-, hvalues, -, hset⟩ := mutations_aligned (by decide) hplain hdefaults hliteral
  constructor
  · obtain ⟨list, items, houtcome, hread, hitems⟩ := hvalues hgiven
    cases hitems with
    | cons hbody hrest =>
        cases hrest with
        | cons hstate hnil =>
            cases hnil
            cases hbody
            cases hstate
            exact ⟨list, houtcome, hread⟩
  · have hnames : schema.NamesColumn record :=
      ⟨("body", .text "it's, (done"), by simp [record], rfl⟩
    obtain ⟨list, items, houtcome, hread, hitems⟩ := hset hnames
    cases hitems with
    | cons hbody hnil =>
        cases hnil
        obtain ⟨column, literal, hfind, hbody, rfl⟩ := hbody
        cases hfind
        cases hbody
        exact ⟨list, houtcome, hread⟩

end RowShell.Schema
