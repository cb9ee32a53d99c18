/-
Filters without some of their columns.

Keys can be left out of a document before it is read, or their clauses out of the filter after
it: it comes to the same, `ofValue_tidied`, faults included.  A fault is never lost with a key
because the only keys that are read for faults are those of alternatives, which are kept.
-/
import RowShell.Proofs.Filter.Document

namespace RowShell

open Outcome

mutual

/-- A clause without the columns that are not to be kept. -/
def Clause.restrict (keeps : String → Bool) : Clause → Clause
  | .anyOf branches => .anyOf (restrictBranches keeps branches)
  | clause => clause

def Filter.restrict (keeps : String → Bool) : List Clause → List Clause
  | [] => []
  | clause :: rest =>
    if clause.entry.1 = Filter.orKey ∨ keeps clause.entry.1 then
      clause.restrict keeps :: Filter.restrict keeps rest
    else Filter.restrict keeps rest

def restrictBranches (keeps : String → Bool) : List (List Clause) → List (List Clause)
  | [] => []
  | branch :: rest => Filter.restrict keeps branch :: restrictBranches keeps rest

end

namespace Filter

variable {blank : Value} {keeps : String → Bool}

/-! ### Entries -/

/-- Operators that do not exist are passed over. -/
theorem comparisons_filter (entries : List (String × Value)) :
    comparisons (entries.filter fun entry => entry.1 ∈ Operator.keys) = comparisons entries := by
  rw [← map_comparisons, comparisons_map]

theorem restrict_ofColumn (key : String) (value : Value) :
    (Clause.ofColumn key value).restrict keeps = .ofColumn key value := by
  cases value <;> rfl

theorem ofColumn_tidiedEntry {key : String} (hkey : key ≠ orKey) (value : Value) :
    Clause.ofColumn key (tidiedEntry blank keeps key value) = .ofColumn key value := by
  cases value with
  | map entries =>
      rw [tidiedEntry, if_neg hkey, Clause.ofColumn, comparisons_filter, Clause.ofColumn]
  | list items => rw [tidiedEntry, if_neg hkey]
  | _ => rfl

theorem ofEntry_tidied_of_ne {key : String} (hkey : key ≠ orKey) (value : Value) :
    ofEntry key (tidiedEntry blank keeps key value) =
      (ofEntry key value).map (Clause.restrict keeps) := by
  rw [ofEntry_of_ne hkey, ofEntry_of_ne hkey, ofColumn_tidiedEntry hkey]
  exact congrArg Except.ok (restrict_ofColumn key value).symm

/-! ### Documents -/

mutual

theorem ofValue_tidied (hblank : ofValue blank = .ok []) : ∀ {document : Value},
    ofValue (tidied blank keeps document) = (ofValue document).map (restrict keeps)
  | .null => by
      rw [tidied, hblank]
      rfl
  | .map entries => by
      rw [tidied, ofValue, ofValue]
      exact ofEntries_tidied hblank
  | .bool _ | .int _ | .float _ | .text _ | .bytes _ | .timestamp _ | .date _ | .list _ => rfl

theorem ofEntries_tidied (hblank : ofValue blank = .ok []) : ∀ {entries : List (String × Value)},
    ofEntries (tidiedEntries blank keeps entries) = (ofEntries entries).map (restrict keeps)
  | [] => rfl
  | (key, value) :: rest => by
      rw [tidiedEntries, ofEntries]
      by_cases hkept : key = orKey ∨ keeps key
      · rw [if_pos hkept, ofEntries, ofEntry_tidied hblank, ofEntries_tidied hblank]
        cases hclause : ofEntry key value with
        | error fault => rfl
        | ok clause =>
            cases ofEntries rest with
            | error fault => rfl
            | ok clauses =>
                change .ok (clause.restrict keeps :: restrict keeps clauses) =
                  Except.ok (restrict keeps (clause :: clauses))
                rw [restrict, (entry_ofEntry hclause).2, if_pos hkept]
      · -- A key that is left out is not that of alternatives, so its clause has no fault to lose.
        have hkey : key ≠ orKey := fun heq => hkept (.inl heq)
        rw [if_neg hkept, ofEntries_tidied hblank, ofEntry_of_ne hkey]
        cases ofEntries rest with
        | error fault => rfl
        | ok clauses =>
            change .ok (restrict keeps clauses) =
              Except.ok (restrict keeps (.ofColumn key value :: clauses))
            rw [restrict, ofColumn_entry .null hkey, if_neg hkept]

theorem ofEntry_tidied (hblank : ofValue blank = .ok []) {key : String} : ∀ {value : Value},
    ofEntry key (tidiedEntry blank keeps key value) =
      (ofEntry key value).map (Clause.restrict keeps)
  | .list items => by
      by_cases hkey : key = orKey
      · subst hkey
        rw [tidiedEntry, if_pos rfl, ofEntry_orKey_list, ofEntry_orKey_list,
          ofBranches_tidied hblank]
        cases ofBranches items <;> rfl
      · exact ofEntry_tidied_of_ne hkey _
  | .null | .bool _ | .int _ | .float _ | .text _ | .bytes _ | .timestamp _ | .date _ | .map _ => by
      by_cases hkey : key = orKey
      · subst hkey
        rfl
      · exact ofEntry_tidied_of_ne hkey _

theorem ofBranches_tidied (hblank : ofValue blank = .ok []) : ∀ {items : List Value},
    ofBranches (tidiedBranches blank keeps items) =
      (ofBranches items).map (restrictBranches keeps)
  | [] => rfl
  | document :: rest => by
      rw [tidiedBranches, ofBranches, ofBranches, ofValue_tidied hblank, ofBranches_tidied hblank]
      cases ofValue document with
      | error fault => rfl
      | ok branch => cases ofBranches rest <;> rfl

end

end Filter

end RowShell
