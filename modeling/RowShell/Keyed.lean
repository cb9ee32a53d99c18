/-
Lists in which every item has its own key.

Maps, schemas and catalogs keep their items in the order in which the keys were first
given.  Putting an item replaces the one with the same key where it stands, and adds
the item at the end if there is none.
-/

namespace RowShell.Keyed

variable {α κ : Type} [DecidableEq κ]

/-- Puts an item in the place of the one with the same key, or at the end. -/
def put (key : α → κ) (item : α) : List α → List α
  | [] => [item]
  | other :: rest => if key other = key item then item :: rest else other :: put key item rest

/-- The items in order, each key once: at its first place and with its last item. -/
def ofList (key : α → κ) (items : List α) : List α :=
  items.foldl (fun known item => put key item known) []

/-- The item with a key. -/
def find? (key : α → κ) (k : κ) (items : List α) : Option α := items.find? fun item => key item = k

/-- The value under a key of a list of pairs. -/
def value? {β : Type} (k : κ) (entries : List (κ × β)) : Option β :=
  (find? Prod.fst k entries).map Prod.snd

/-- The keys after an item is put: the same, with the item's key at the end if it is new. -/
theorem map_put (key : α → κ) (item : α) (items : List α) :
    (put key item items).map key =
      if key item ∈ items.map key then items.map key else items.map key ++ [key item] := by
  induction items with
  | nil => simp [put]
  | cons other rest ih =>
    by_cases h : key other = key item
    · simp [put, h]
    · have h' : key item ≠ key other := fun e => h e.symm
      by_cases hmem : key item ∈ rest.map key <;> simp_all [put]

/-- Putting keeps the keys distinct. -/
theorem nodup_put (key : α → κ) (item : α) {items : List α} (h : (items.map key).Nodup) :
    ((put key item items).map key).Nodup := by
  rw [map_put]
  split
  · exact h
  · next hmem => exact List.nodup_append.2 ⟨h, by simp, by grind⟩

private theorem nodup_foldl_put (key : α → κ) (items : List α) :
    ∀ known : List α, (known.map key).Nodup →
      ((items.foldl (fun known item => put key item known) known).map key).Nodup := by
  induction items with
  | nil => exact fun known h => h
  | cons item rest ih => exact fun known h => ih _ (nodup_put key item h)

/-- The keys of a keyed list are distinct. -/
theorem nodup_ofList (key : α → κ) (items : List α) : ((ofList key items).map key).Nodup :=
  nodup_foldl_put key items [] (by simp)

end RowShell.Keyed
