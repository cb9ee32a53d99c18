/-
The columns of a filter and of its document.

The columns that a filter names are collected from the filter.  On a document they are the keys
other than that of alternatives, in the document itself and in the documents that are reached
from it through lists of alternatives, and nowhere else: a key of an operand is none.
`mem_columnNames_iff` says that reading a document keeps them.
-/
import RowShell.Proofs.Filter.Document

namespace RowShell

open Outcome

/-! ### Repetitions -/

theorem mem_eraseReps_loop {x : String} (a : String) (items held : List String) :
    x ∈ List.eraseRepsBy.loop (· == ·) a items held ↔ x = a ∨ x ∈ items ∨ x ∈ held := by
  induction items generalizing a held with
  | nil => simp [List.eraseRepsBy.loop, or_comm]
  | cons b rest ih =>
      rw [List.eraseRepsBy.loop]
      by_cases hab : a = b
      · subst hab
        simp [ih, ← or_assoc]
      · have hne : (a == b) = false := by simpa using hab
        simp only [hne, ih, List.mem_cons]
        grind

/-- Leaving out repetitions loses no item. -/
theorem mem_eraseReps {x : String} {items : List String} : x ∈ items.eraseReps ↔ x ∈ items := by
  cases items with
  | nil => simp [List.eraseReps, List.eraseRepsBy]
  | cons a rest =>
      rw [List.eraseReps, List.eraseRepsBy, mem_eraseReps_loop]
      simp

namespace Filter

theorem mem_columnNames {filter : Filter} {name : String} :
    name ∈ filter.columnNames ↔ name ∈ columns filter := by
  rw [columnNames, mem_eraseReps, List.mem_mergeSort]

/-! ### The columns of a document -/

/-- The name is a key of the document other than that of alternatives, or of a document that is
reached through a list of alternatives. -/
inductive Mentions (name : String) : Value → Prop
  | key {entries : List (String × Value)} {value : Value} (hname : name ≠ orKey)
      (hentry : (name, value) ∈ entries) : Mentions name (.map entries)
  | branch {entries : List (String × Value)} {items : List Value} {item : Value}
      (hentry : (orKey, .list items) ∈ entries) (hitem : item ∈ items)
      (h : Mentions name item) : Mentions name (.map entries)

variable {name : String}

theorem not_mentions_null : ¬ Mentions name .null := nofun

/-- What an entry of a document mentions. -/
def EntryMentions (name key : String) (value : Value) : Prop :=
  if key = orKey then ∃ items, value = .list items ∧ ∃ item ∈ items, Mentions name item
  else name = key

theorem mentions_map {entries : List (String × Value)} :
    Mentions name (.map entries) ↔ ∃ entry ∈ entries, EntryMentions name entry.1 entry.2 := by
  unfold EntryMentions
  constructor
  · intro h
    cases h with
    | key hname hentry =>
        refine ⟨_, hentry, ?_⟩
        rw [if_neg hname]
    | branch hentry hitem h =>
        refine ⟨_, hentry, ?_⟩
        rw [if_pos rfl]
        exact ⟨_, rfl, _, hitem, h⟩
  · intro h
    obtain ⟨⟨key, value⟩, hentry, h⟩ := h
    by_cases hkey : key = orKey
    · subst hkey
      rw [if_pos rfl] at h
      obtain ⟨items, rfl, item, hitem, h⟩ := h
      exact .branch hentry hitem h
    · rw [if_neg hkey] at h
      subst h
      exact .key hkey hentry

/-! ### Reading keeps the columns -/

theorem columns_ofColumn (key : String) (value : Value) :
    (Clause.ofColumn key value).columns = [key] := by
  cases value <;> rfl

theorem mem_columns_ofEntry_of_ne {key : String} {value : Value} {clause : Clause}
    (hkey : key ≠ orKey) (h : ofEntry key value = .ok clause) :
    name ∈ clause.columns ↔ EntryMentions name key value := by
  rw [ofEntry_of_ne hkey] at h
  cases h
  rw [columns_ofColumn, List.mem_singleton, EntryMentions, if_neg hkey]

mutual

theorem mem_columns_ofValue : ∀ {document : Value} {filter : Filter},
    ofValue document = .ok filter → (name ∈ columns filter ↔ Mentions name document)
  | .null, filter, h => by
      cases h
      exact iff_of_false List.not_mem_nil not_mentions_null
  | .map entries, filter, h => by
      rw [ofValue] at h
      rw [mentions_map]
      exact mem_columns_ofEntries h
  | .bool _, _, h | .int _, _, h | .float _, _, h | .text _, _, h | .bytes _, _, h
  | .timestamp _, _, h | .date _, _, h | .list _, _, h => nomatch h

theorem mem_columns_ofEntries : ∀ {entries : List (String × Value)} {clauses : List Clause},
    ofEntries entries = .ok clauses → (name ∈ columns clauses ↔
      ∃ entry ∈ entries, EntryMentions name entry.1 entry.2)
  | [], clauses, h => by
      cases h
      exact iff_of_false List.not_mem_nil (by simp)
  | (key, value) :: rest, clauses, h => by
      rw [ofEntries] at h
      obtain ⟨clause, clauses, hclause, hrest, rfl⟩ := cons_eq_ok.mp h
      rw [columns, List.mem_append, mem_columns_ofEntry hclause, mem_columns_ofEntries hrest]
      simp

theorem mem_columns_ofEntry {key : String} : ∀ {value : Value} {clause : Clause},
    ofEntry key value = .ok clause → (name ∈ clause.columns ↔ EntryMentions name key value)
  | .list items, clause, h => by
      by_cases hkey : key = orKey
      · subst hkey
        rw [ofEntry_orKey_list] at h
        obtain ⟨branches, hbranches, rfl⟩ := map_eq_ok.mp h
        rw [Clause.columns, mem_columns_ofBranches hbranches, EntryMentions, if_pos rfl]
        simp
      · exact mem_columns_ofEntry_of_ne hkey h
  | .null, _, h | .bool _, _, h | .int _, _, h | .float _, _, h | .text _, _, h | .bytes _, _, h
  | .timestamp _, _, h | .date _, _, h | .map _, _, h => by
      by_cases hkey : key = orKey
      · subst hkey
        cases h
      · exact mem_columns_ofEntry_of_ne hkey h

theorem mem_columns_ofBranches : ∀ {items : List Value} {branches : List (List Clause)},
    ofBranches items = .ok branches → (name ∈ branchColumns branches ↔
      ∃ item ∈ items, Mentions name item)
  | [], branches, h => by
      cases h
      exact iff_of_false List.not_mem_nil (by simp)
  | document :: rest, branches, h => by
      rw [ofBranches] at h
      obtain ⟨branch, branches, hbranch, hrest, rfl⟩ := cons_eq_ok.mp h
      rw [branchColumns, List.mem_append, mem_columns_ofValue hbranch,
        mem_columns_ofBranches hrest]
      simp

end

/-- **The columns of a filter that was read are those of its document.** -/
theorem mem_columnNames_iff {document : Value} {filter : Filter}
    (h : read document = .ok filter) : name ∈ filter.columnNames ↔ Mentions name document := by
  rw [mem_columnNames]
  exact mem_columns_ofValue (read_eq_ok.mp h)

end Filter

end RowShell
