/-
Lists by key.

A list that is keyed has the keys of the list it was made from, each at its first place, and
under each key the last item: an item that comes later takes the place of the earlier one.
-/
import Mathlib.Data.List.Induction
import RowShell.Keyed

namespace RowShell

/-- The last place of an item in a list. -/
def IsLastAt {α : Type} (items : List α) (a : α) (i : Nat) : Prop :=
  items[i]? = some a ∧ ∀ j, i < j → items[j]? ≠ some a

theorem isLastAt_zero {α : Type} {first : α} {rest : List α} {a : α} :
    IsLastAt (first :: rest) a 0 ↔ first = a ∧ a ∉ rest := by
  unfold IsLastAt
  simp only [List.getElem?_cons_zero, Option.some_inj]
  refine and_congr_right fun _ => ?_
  constructor
  · intro h hmem
    obtain ⟨j, hj⟩ := List.mem_iff_getElem?.mp hmem
    exact h (j + 1) (by omega) hj
  · intro h j hj hsome
    obtain ⟨j, rfl⟩ : ∃ k, j = k + 1 := ⟨j - 1, by omega⟩
    exact h (List.mem_of_getElem? hsome)

theorem isLastAt_succ {α : Type} {first : α} {rest : List α} {a : α} {i : Nat} :
    IsLastAt (first :: rest) a (i + 1) ↔ IsLastAt rest a i := by
  unfold IsLastAt
  simp only [List.getElem?_cons_succ]
  refine and_congr_right fun _ => ?_
  constructor
  · intro h j hj
    exact h (j + 1) (by omega)
  · intro h j hj
    obtain ⟨j, rfl⟩ : ∃ k, j = k + 1 := ⟨j - 1, by omega⟩
    exact h j (by omega)

theorem exists_isLastAt {α : Type} {items : List α} {a : α} (h : a ∈ items) :
    ∃ i, IsLastAt items a i := by
  induction items with
  | nil => cases h
  | cons first rest ih =>
      by_cases hrest : a ∈ rest
      · obtain ⟨i, hi⟩ := ih hrest
        exact ⟨i + 1, isLastAt_succ.mpr hi⟩
      · have hfirst : a = first := by simpa [hrest] using h
        exact ⟨0, isLastAt_zero.mpr ⟨hfirst.symm, hrest⟩⟩

namespace Keyed

variable {α κ : Type} [DecidableEq κ] (key : α → κ)

theorem ofList_concat (items : List α) (item : α) :
    ofList key (items ++ [item]) = put key item (ofList key items) := by
  simp [ofList]

/-- **The keys of a keyed list** are those of the list, each at its first place. -/
theorem map_ofList (items : List α) : (ofList key items).map key = (items.map key).eraseDups := by
  induction items using List.reverseRecOn with
  | nil => rfl
  | append_singleton items item ih =>
      rw [ofList_concat, map_put, ih, List.map_append, List.eraseDups_append]
      by_cases h : key item ∈ items.map key
      · have hnew : [key item].removeAll (items.map key) = [] := by
          simpa [List.removeAll] using h
        rw [if_pos (by simpa using h), List.map_singleton, hnew]
        simp
      · have hnew : [key item].removeAll (items.map key) = [key item] := by
          simpa [List.removeAll] using h
        rw [if_neg (by simpa using h), List.map_singleton, hnew]
        rfl

theorem put_of_not_mem {item : α} {items : List α} (h : key item ∉ items.map key) :
    put key item items = items ++ [item] := by
  induction items with
  | nil => rfl
  | cons other rest ih =>
      have hother : key other ≠ key item := fun heq => h (by simp [heq])
      have hrest : key item ∉ rest.map key := fun hmem => h (by simp [hmem])
      rw [put, if_neg hother, ih hrest]
      rfl

/-- Where the keys are distinct the list is keyed as it stands. -/
theorem ofList_eq_self {items : List α} (h : (items.map key).Nodup) : ofList key items = items := by
  induction items using List.reverseRecOn with
  | nil => rfl
  | append_singleton items item ih =>
      rw [List.map_append, List.nodup_append] at h
      rw [ofList_concat, ih h.1]
      apply put_of_not_mem
      intro hmem
      exact h.2.2 _ hmem _ (by simp) rfl

/-- An item is found by its key where the keys are distinct. -/
theorem find?_of_mem {items : List α} (hdistinct : (items.map key).Nodup) {item : α}
    (h : item ∈ items) : find? key (key item) items = some item := by
  induction items with
  | nil => cases h
  | cons other rest ih =>
      rw [List.map_cons, List.nodup_cons] at hdistinct
      rcases List.mem_cons.mp h with rfl | hrest
      · simp [find?]
      · have hne : key other ≠ key item := by
          intro heq
          exact hdistinct.1 (heq ▸ List.mem_map_of_mem hrest)
        have hfind := ih hdistinct.2 hrest
        unfold find? at hfind ⊢
        rw [List.find?_cons_of_neg (by simpa using hne), hfind]

theorem mem_of_value? {β : Type} {k : κ} {entries : List (κ × β)} {b : β}
    (h : value? k entries = some b) : (k, b) ∈ entries := by
  obtain ⟨⟨k', b'⟩, hfind, rfl⟩ := Option.map_eq_some_iff.mp h
  have hkey : k' = k := by simpa using List.find?_some hfind
  exact hkey ▸ List.mem_of_find?_eq_some hfind

/-- Leaving out entries by their keys does not change the value under a key that is kept. -/
theorem value?_filter {β : Type} {keeps : κ → Bool} {k : κ} (h : keeps k = true)
    (entries : List (κ × β)) :
    value? k (entries.filter fun entry => keeps entry.1) = value? k entries := by
  unfold value? find?
  rw [List.find?_filter]
  congr
  funext entry
  by_cases hkey : entry.1 = k
  · simp [hkey, h]
  · simp [hkey]

theorem find?_put (k : κ) (item : α) (items : List α) :
    find? key k (put key item items) = if key item = k then some item else find? key k items := by
  induction items with
  | nil =>
      by_cases h : key item = k <;> simp [put, find?, h]
  | cons other rest ih =>
      unfold find? at ih ⊢
      by_cases h : key other = key item
      · by_cases hk : key item = k <;> simp [put, h, hk]
      · by_cases hother : key other = k
        · have hk : key item ≠ k := fun hk => h (hother.trans hk.symm)
          have hk' : k ≠ key item := fun heq => hk heq.symm
          simp [put, hother, hk, hk']
        · simp [put, h, hother, ih]

private theorem find?_foldl_put_of_not_mem {k : κ} (items known : List α)
    (h : k ∉ items.map key) :
    find? key k (items.foldl (fun known item => put key item known) known) = find? key k known := by
  induction items generalizing known with
  | nil => rfl
  | cons item rest ih =>
      have hitem : key item ≠ k := fun heq => h (by simp [heq])
      have hrest : k ∉ rest.map key := fun hmem => h (by simp [hmem])
      rw [List.foldl_cons, ih _ hrest, find?_put, if_neg hitem]

private theorem find?_foldl_put {items : List α} {k : κ} {i : Nat} (known : List α)
    (h : IsLastAt (items.map key) k i) :
    find? key k (items.foldl (fun known item => put key item known) known) = items[i]? := by
  induction items generalizing known i with
  | nil => cases h.1
  | cons item rest ih =>
      rw [List.map_cons] at h
      cases i with
      | zero =>
          obtain ⟨hitem, hrest⟩ := isLastAt_zero.mp h
          rw [List.foldl_cons, find?_foldl_put_of_not_mem key rest _ hrest, find?_put, if_pos hitem]
          rfl
      | succ i => exact ih _ (isLastAt_succ.mp h)

/-- **Under a key a keyed list has the last item of the list.** -/
theorem find?_ofList {items : List α} {k : κ} {i : Nat} (h : IsLastAt (items.map key) k i) :
    find? key k (ofList key items) = items[i]? :=
  find?_foldl_put key [] h

end Keyed

end RowShell
