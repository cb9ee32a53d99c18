/-
Documents of filters.

A filter is written back as the document that it stands for, one entry for each clause, and
a document is tidied without being read.  `read_document` compares the two: the filter of a
document is the one that is written as the tidied document, so that nothing is lost but
operators that do not exist.  A document has no filter exactly if it is not well formed, which
is said on the document alone.

The written form alone does not tell an operator group from a column that equals a map, nor
alternatives from a column of that name.  A filter that was read holds neither, `Proper`, and
such a filter is what is read from its document.
-/
import RowShell.Filter
import RowShell.Proofs.Outcome

namespace RowShell

open Outcome

/-! ### Keys of operators -/

namespace Operator

/-- The keys of operators in a document. -/
def keys : List String := ["$gt", "$gte", "$lt", "$lte", "$eq", "$ne"]

theorem map_key_all : all.map key = keys := rfl

theorem key_mem_keys (op : Operator) : op.key ∈ keys := by
  cases op <;> decide

@[simp] theorem ofKey?_key (op : Operator) : ofKey? op.key = some op := by
  cases op <;> rfl

theorem ofKey?_eq_some {key : String} {op : Operator} : ofKey? key = some op ↔ op.key = key := by
  constructor
  · intro h
    simpa using List.find?_some h
  · intro h
    subst h
    exact ofKey?_key op

theorem ofKey?_eq_none {key : String} : ofKey? key = none ↔ key ∉ keys := by
  rw [ofKey?, List.find?_eq_none, ← map_key_all, List.mem_map]
  simp

end Operator

/-! ### Filters as documents -/

mutual

/-- The entry of a document that a clause stands for. -/
def Clause.entry : Clause → String × Value
  | .equals column value => (column, value)
  | .compares column comparisons =>
    (column, .map (comparisons.map fun (op, operand) => (op.key, operand)))
  | .anyOf branches => (Filter.orKey, .list (branchDocuments branches))

def Filter.entries : List Clause → List (String × Value)
  | [] => []
  | clause :: rest => clause.entry :: Filter.entries rest

def branchDocuments : List (List Clause) → List Value
  | [] => []
  | branch :: rest => .map (Filter.entries branch) :: branchDocuments rest

end

/-- The document that a filter stands for. -/
def Filter.document (filter : Filter) : Value := .map (Filter.entries filter)

mutual

/-- No column is named like the key of alternatives, and none equals a map. -/
def Clause.Proper : Clause → Prop
  | .equals column value => column ≠ Filter.orKey ∧ ∀ entries, value ≠ .map entries
  | .compares column _ => column ≠ Filter.orKey
  | .anyOf branches => ProperBranches branches

def Filter.Proper : List Clause → Prop
  | [] => True
  | clause :: rest => clause.Proper ∧ Filter.Proper rest

def ProperBranches : List (List Clause) → Prop
  | [] => True
  | branch :: rest => Filter.Proper branch ∧ ProperBranches rest

end

/-- The clause of a column and its value in a document. -/
def Clause.ofColumn (column : String) : Value → Clause
  | .map entries => .compares column (Filter.comparisons entries)
  | value => .equals column value

namespace Filter

/-! ### Documents as such -/

/-- A document is null, or a map in which the alternatives are a list of documents. -/
inductive WellFormed : Value → Prop
  | null : WellFormed .null
  | map {entries : List (String × Value)}
      (lists : ∀ value, (orKey, value) ∈ entries → ∃ items, value = .list items)
      (branches : ∀ items, (orKey, .list items) ∈ entries → ∀ item ∈ items, WellFormed item) :
      WellFormed (.map entries)

mutual

/-- A document with `blank` in the place of null, without keys that are not to be kept, and
without operators that do not exist. -/
def tidied (blank : Value) (keeps : String → Bool) : Value → Value
  | .null => blank
  | .map entries => .map (tidiedEntries blank keeps entries)
  | document => document

def tidiedEntries (blank : Value) (keeps : String → Bool) :
    List (String × Value) → List (String × Value)
  | [] => []
  | (key, value) :: rest =>
    if key = orKey ∨ keeps key then
      (key, tidiedEntry blank keeps key value) :: tidiedEntries blank keeps rest
    else tidiedEntries blank keeps rest

/-- The value of a key: only lists of alternatives hold documents, and only maps of columns
hold operators. -/
def tidiedEntry (blank : Value) (keeps : String → Bool) (key : String) : Value → Value
  | .list items => .list (if key = orKey then tidiedBranches blank keeps items else items)
  | .map entries =>
    .map (if key = orKey then entries else entries.filter fun entry => entry.1 ∈ Operator.keys)
  | value => value

def tidiedBranches (blank : Value) (keeps : String → Bool) : List Value → List Value
  | [] => []
  | document :: rest => tidied blank keeps document :: tidiedBranches blank keeps rest

end

/-- A document with empty maps in the place of null and without operators that do not exist. -/
def normalized (document : Value) : Value := tidied (.map []) (fun _ => true) document

/-! ### Reading step by step -/

theorem ofEntry_of_ne {key : String} (hkey : key ≠ orKey) (value : Value) :
    ofEntry key value = .ok (.ofColumn key value) := by
  cases value with
  | list items =>
      rw [ofEntry, if_neg hkey]
      rfl
  | _ => exact if_neg hkey

theorem ofEntry_orKey_list (items : List Value) :
    ofEntry orKey (.list items) = (ofBranches items).map .anyOf := by
  rw [ofEntry, if_pos rfl]
  cases ofBranches items <;> rfl

theorem ofEntry_orKey_of_ne {value : Value} (h : ∀ items, value ≠ .list items) :
    ofEntry orKey value = .error (.alternativesNotAList value.kind) := by
  cases value with
  | list items => exact absurd rfl (h items)
  | _ => rfl

/-! ### Well-formed documents are read -/

/-- The value of the key of alternatives in a well-formed document. -/
def Alternatives (value : Value) : Prop :=
  ∃ items, value = .list items ∧ ∀ item ∈ items, WellFormed item

theorem alternatives_list {items : List Value} :
    Alternatives (.list items) ↔ ∀ item ∈ items, WellFormed item := by
  simp [Alternatives]

theorem wellFormed_map {entries : List (String × Value)} :
    WellFormed (.map entries) ↔ ∀ value, (orKey, value) ∈ entries → Alternatives value := by
  constructor
  · intro h value hvalue
    cases h with
    | map lists branches =>
        obtain ⟨items, rfl⟩ := lists value hvalue
        exact ⟨items, rfl, branches items hvalue⟩
  · intro h
    refine .map ?_ fun items hitems => alternatives_list.mp (h _ hitems)
    intro value hvalue
    obtain ⟨items, hitems, -⟩ := h value hvalue
    exact ⟨items, hitems⟩

theorem exists_ofEntry_of_ne {key : String} {value : Value} (h : ∀ items, value ≠ .list items) :
    (∃ clause, ofEntry key value = .ok clause) ↔ (key = orKey → Alternatives value) := by
  by_cases hkey : key = orKey
  · subst hkey
    rw [ofEntry_orKey_of_ne h]
    refine iff_of_false nofun ?_
    intro halternatives
    obtain ⟨items, heq, -⟩ := halternatives rfl
    exact h items heq
  · rw [ofEntry_of_ne hkey]
    exact iff_of_true ⟨_, rfl⟩ fun heq => absurd heq hkey

mutual

theorem exists_ofValue : ∀ {document : Value},
    (∃ filter, ofValue document = .ok filter) ↔ WellFormed document
  | .null => iff_of_true ⟨[], rfl⟩ .null
  | .map entries => by
      rw [ofValue, wellFormed_map]
      exact exists_ofEntries
  | .bool _ | .int _ | .float _ | .text _ | .bytes _ | .timestamp _ | .date _ | .list _ =>
      iff_of_false nofun nofun

theorem exists_ofEntries : ∀ {entries : List (String × Value)},
    (∃ clauses, ofEntries entries = .ok clauses) ↔
      ∀ value, (orKey, value) ∈ entries → Alternatives value
  | [] => iff_of_true ⟨[], rfl⟩ nofun
  | (key, value) :: rest => by
      rw [ofEntries]
      simp only [cons_eq_ok]
      constructor
      · intro h other hother
        obtain ⟨-, clause, clauses, hclause, hrest, -⟩ := h
        rcases List.mem_cons.mp hother with heq | hmem
        · cases heq
          exact exists_ofEntry.mp ⟨clause, hclause⟩ rfl
        · exact exists_ofEntries.mp ⟨clauses, hrest⟩ other hmem
      · intro h
        obtain ⟨clause, hclause⟩ := exists_ofEntry.mpr fun heq : key = orKey =>
          h value (by simp [heq])
        obtain ⟨clauses, hrest⟩ := exists_ofEntries.mpr fun other hother =>
          h other (List.mem_cons_of_mem _ hother)
        exact ⟨_, clause, clauses, hclause, hrest, rfl⟩

theorem exists_ofEntry {key : String} : ∀ {value : Value},
    (∃ clause, ofEntry key value = .ok clause) ↔ (key = orKey → Alternatives value)
  | .list items => by
      by_cases hkey : key = orKey
      · subst hkey
        rw [ofEntry_orKey_list, alternatives_list, ← exists_ofBranches]
        simp [map_eq_ok]
      · rw [ofEntry_of_ne hkey]
        exact iff_of_true ⟨_, rfl⟩ fun heq => absurd heq hkey
  | .null | .bool _ | .int _ | .float _ | .text _ | .bytes _ | .timestamp _ | .date _ | .map _ =>
      exists_ofEntry_of_ne nofun

theorem exists_ofBranches : ∀ {items : List Value},
    (∃ branches, ofBranches items = .ok branches) ↔ ∀ item ∈ items, WellFormed item
  | [] => iff_of_true ⟨[], rfl⟩ nofun
  | document :: rest => by
      rw [ofBranches, List.forall_mem_cons, ← exists_ofValue, ← exists_ofBranches]
      simp only [cons_eq_ok]
      constructor
      · intro h
        obtain ⟨-, branch, branches, hbranch, hrest, -⟩ := h
        exact ⟨⟨branch, hbranch⟩, ⟨branches, hrest⟩⟩
      · intro h
        obtain ⟨⟨branch, hbranch⟩, ⟨branches, hrest⟩⟩ := h
        exact ⟨_, branch, branches, hbranch, hrest, rfl⟩

end

/-! ### What was read is the tidied document -/

theorem comparisons_cons_none {key : String} (h : Operator.ofKey? key = none) (operand : Value)
    (rest : List (String × Value)) : comparisons ((key, operand) :: rest) = comparisons rest := by
  simp [comparisons, h]

theorem comparisons_cons_key (op : Operator) (operand : Value) (rest : List (String × Value)) :
    comparisons ((op.key, operand) :: rest) = (op, operand) :: comparisons rest := by
  simp [comparisons]

/-- A group keeps the operators that exist. -/
theorem map_comparisons (entries : List (String × Value)) :
    (comparisons entries).map (fun (op, operand) => (op.key, operand)) =
      entries.filter fun entry => entry.1 ∈ Operator.keys := by
  induction entries with
  | nil => rfl
  | cons entry rest ih =>
      obtain ⟨key, operand⟩ := entry
      cases hop : Operator.ofKey? key with
      | none =>
          rw [comparisons_cons_none hop, ih,
            List.filter_cons_of_neg (by simpa using Operator.ofKey?_eq_none.mp hop)]
      | some op =>
          obtain rfl := Operator.ofKey?_eq_some.mp hop
          rw [comparisons_cons_key, List.map_cons, ih,
            List.filter_cons_of_pos (by simpa using Operator.key_mem_keys op)]

/-- Operators are read back. -/
theorem comparisons_map (cs : List (Operator × Value)) :
    comparisons (cs.map fun (op, operand) => (op.key, operand)) = cs := by
  induction cs with
  | nil => rfl
  | cons c rest ih => rw [List.map_cons, comparisons_cons_key, ih]

theorem ofColumn_proper {key : String} (hkey : key ≠ orKey) (value : Value) :
    (Clause.ofColumn key value).Proper := by
  cases value with
  | map entries => exact hkey
  | _ => exact ⟨hkey, nofun⟩

theorem ofColumn_entry (blank : Value) {key : String} (hkey : key ≠ orKey) (value : Value) :
    (Clause.ofColumn key value).entry = (key, tidiedEntry blank (fun _ => true) key value) := by
  cases value with
  | map entries => simp [Clause.ofColumn, Clause.entry, tidiedEntry, hkey, map_comparisons]
  | list items => simp [Clause.ofColumn, Clause.entry, tidiedEntry, hkey]
  | _ => rfl

theorem entry_ofEntry_of_ne {key : String} {value : Value} {clause : Clause}
    (h : ofEntry key value = .ok clause) (hvalue : ∀ items, value ≠ .list items) :
    clause.Proper ∧ clause.entry = (key, tidiedEntry (.map []) (fun _ => true) key value) := by
  by_cases hkey : key = orKey
  · subst hkey
    rw [ofEntry_orKey_of_ne hvalue] at h
    cases h
  · rw [ofEntry_of_ne hkey] at h
    cases h
    exact ⟨ofColumn_proper hkey _, ofColumn_entry _ hkey _⟩

mutual

theorem document_ofValue : ∀ {document : Value} {filter : Filter},
    ofValue document = .ok filter → Proper filter ∧ filter.document = normalized document
  | .null, filter, h => by
      cases h
      exact ⟨trivial, rfl⟩
  | .map entries, filter, h => by
      rw [ofValue] at h
      obtain ⟨hproper, hentries⟩ := entries_ofEntries h
      refine ⟨hproper, ?_⟩
      rw [document, hentries]
      rfl
  | .bool _, _, h | .int _, _, h | .float _, _, h | .text _, _, h | .bytes _, _, h
  | .timestamp _, _, h | .date _, _, h | .list _, _, h => nomatch h

theorem entries_ofEntries : ∀ {entries : List (String × Value)} {clauses : List Clause},
    ofEntries entries = .ok clauses → Proper clauses ∧
      Filter.entries clauses = tidiedEntries (.map []) (fun _ => true) entries
  | [], clauses, h => by
      cases h
      exact ⟨trivial, rfl⟩
  | (key, value) :: rest, clauses, h => by
      rw [ofEntries] at h
      obtain ⟨clause, clauses, hclause, hrest, rfl⟩ := cons_eq_ok.mp h
      obtain ⟨hclauseProper, hentry⟩ := entry_ofEntry hclause
      obtain ⟨hrestProper, hentries⟩ := entries_ofEntries hrest
      refine ⟨⟨hclauseProper, hrestProper⟩, ?_⟩
      rw [Filter.entries, hentry, hentries, tidiedEntries, if_pos (.inr rfl)]

theorem entry_ofEntry {key : String} : ∀ {value : Value} {clause : Clause},
    ofEntry key value = .ok clause → clause.Proper ∧
      clause.entry = (key, tidiedEntry (.map []) (fun _ => true) key value)
  | .list items, clause, h => by
      by_cases hkey : key = orKey
      · subst hkey
        rw [ofEntry_orKey_list] at h
        obtain ⟨branches, hbranches, rfl⟩ := map_eq_ok.mp h
        obtain ⟨hproper, hdocuments⟩ := documents_ofBranches hbranches
        refine ⟨hproper, ?_⟩
        rw [Clause.entry, hdocuments, tidiedEntry, if_pos rfl]
      · rw [ofEntry_of_ne hkey] at h
        cases h
        exact ⟨ofColumn_proper hkey _, ofColumn_entry _ hkey _⟩
  | .null, _, h | .bool _, _, h | .int _, _, h | .float _, _, h | .text _, _, h | .bytes _, _, h
  | .timestamp _, _, h | .date _, _, h | .map _, _, h => entry_ofEntry_of_ne h nofun

theorem documents_ofBranches : ∀ {items : List Value} {branches : List (List Clause)},
    ofBranches items = .ok branches → ProperBranches branches ∧
      branchDocuments branches = tidiedBranches (.map []) (fun _ => true) items
  | [], branches, h => by
      cases h
      exact ⟨trivial, rfl⟩
  | document :: rest, branches, h => by
      rw [ofBranches] at h
      obtain ⟨branch, branches, hbranch, hrest, rfl⟩ := cons_eq_ok.mp h
      obtain ⟨hbranchProper, hdocument⟩ := document_ofValue hbranch
      obtain ⟨hrestProper, hdocuments⟩ := documents_ofBranches hrest
      refine ⟨⟨hbranchProper, hrestProper⟩, ?_⟩
      rw [branchDocuments, hdocuments, tidiedBranches, ← normalized, ← hdocument]
      rfl

end

/-! ### Written filters are read -/

mutual

theorem ofEntry_entry : ∀ {clause : Clause}, clause.Proper →
    ofEntry clause.entry.1 clause.entry.2 = .ok clause
  | .equals column value, h => by
      rw [Clause.entry, ofEntry_of_ne h.1]
      cases value with
      | map entries => exact absurd rfl (h.2 entries)
      | _ => rfl
  | .compares column cs, h => by
      rw [Clause.entry, ofEntry_of_ne h, Clause.ofColumn, comparisons_map]
  | .anyOf branches, h => by
      rw [Clause.entry, ofEntry_orKey_list, ofBranches_documents h]
      rfl

theorem ofEntries_entries : ∀ {filter : List Clause}, Proper filter →
    ofEntries (Filter.entries filter) = .ok filter
  | [], _ => rfl
  | clause :: rest, h => by
      rw [Filter.entries, ofEntries, ofEntry_entry h.1, ofEntries_entries h.2]
      rfl

theorem ofBranches_documents : ∀ {branches : List (List Clause)}, ProperBranches branches →
    ofBranches (branchDocuments branches) = .ok branches
  | [], _ => rfl
  | branch :: rest, h => by
      rw [branchDocuments, ofBranches, ofValue, ofEntries_entries h.1, ofBranches_documents h.2]
      rfl

end

/-- **A filter is read from its document.** -/
theorem ofValue_document {filter : Filter} (h : Proper filter) :
    ofValue filter.document = .ok filter := by
  rw [document, ofValue, ofEntries_entries h]

theorem Proper.eq_of_document {filter other : Filter} (h : Proper filter) (hother : Proper other)
    (heq : other.document = filter.document) : other = filter := by
  have hread := ofValue_document hother
  rw [heq, ofValue_document h] at hread
  exact (Except.ok.inj hread).symm

/-! ### Reading -/

theorem read_eq_ok {document : Value} {filter : Filter} :
    read document = .ok filter ↔ ofValue document = .ok filter := by
  rw [read]
  cases ofValue document with
  | error cause => exact iff_of_false nofun nofun
  | ok filter' => simp [Except.mapError]

theorem read_eq_error {document : Value} :
    (∃ cause, read document = .error (.filter cause)) ↔ ¬ WellFormed document := by
  rw [read, ← exists_ofValue]
  cases ofValue document with
  | error cause => exact iff_of_true ⟨cause, rfl⟩ nofun
  | ok filter => exact iff_of_false nofun (by simp)

/-- **Reading a document loses nothing but operators that do not exist.**  A document is refused
exactly if it is not well formed, at whatever depth.  The filter of any other document is the
one that is written as that document, with empty maps in the place of null and without
operators that do not exist. -/
theorem read_document (document : Value) :
    ((∃ cause, read document = .error (.filter cause)) ↔ ¬ WellFormed document) ∧
    (WellFormed document → ∃ filter : Filter, read document = .ok filter ∧ Proper filter ∧
      filter.document = normalized document ∧
      ∀ other : Filter, Proper other → other.document = normalized document → other = filter) := by
  refine ⟨read_eq_error, ?_⟩
  intro hwell
  obtain ⟨filter, hfilter⟩ := exists_ofValue.mpr hwell
  obtain ⟨hproper, hdocument⟩ := document_ofValue hfilter
  refine ⟨filter, read_eq_ok.mpr hfilter, hproper, hdocument, ?_⟩
  intro other hother heq
  exact hproper.eq_of_document hother (heq.trans hdocument.symm)

/-- Alternatives in alternatives, one of them null, and an operator that does not exist. -/
theorem read_document_alternatives :
    ∃ filter : Filter,
      read (.map [("a", .map [("$gt", .text "x"), ("$or", .null), ("$like", .text "y")]),
        ("$or", .list [.null, .map [("$or", .list [.map [("b", .list [])]])]])]) = .ok filter ∧
      filter.document = .map [("a", .map [("$gt", .text "x")]),
        ("$or", .list [.map [], .map [("$or", .list [.map [("b", .list [])]])]])] := by
  have hwell : WellFormed (.map [("a", .map [("$gt", .text "x"), ("$or", .null),
      ("$like", .text "y")]),
      ("$or", .list [.null, .map [("$or", .list [.map [("b", .list [])]])]])]) := by
    rw [← exists_ofValue]
    exact ⟨_, rfl⟩
  obtain ⟨filter, hfilter, -, hdocument, -⟩ := (read_document _).2 hwell
  exact ⟨filter, hfilter, hdocument⟩

end Filter

end RowShell
