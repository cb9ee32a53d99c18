/-
Outcomes.

An operation ends with an answer or with a fault.  The lemmas here take the outcome of a
sequence apart: it has an answer when every step has one, and it fails when some step
fails after answers of all steps before it.  Everything that is proved about answers and
about faults goes through them, so no later proof opens a bind.
-/
import Mathlib.Data.List.Forall2
import RowShell.Report

namespace RowShell

namespace Report

variable {α β γ : Type}

/-! ### Reports are a lawful monad

The log of a sequence is the log of its steps in order, however the steps are grouped.
-/

theorem ext {r r' : Report α} (hlog : r.log = r'.log) (houtcome : r.outcome = r'.outcome) :
    r = r' := by
  cases r
  cases r'
  cases hlog
  cases houtcome
  rfl

theorem log_bind (r : Report α) (next : α → Report β) :
    (r >>= next).log = r.log ++ match r.outcome with
      | .ok a => (next a).log
      | .error _ => [] := by
  change (Report.bind r next).log = _
  unfold Report.bind
  cases h : r.outcome <;> simp

private theorem id_map (r : Report α) : id <$> r = r := by
  change (r >>= fun a => pure a) = r
  refine ext ?_ ?_
  · rw [log_bind]
    cases r.outcome <;> simp
  · rw [outcome_bind]
    cases r.outcome <;> rfl

private theorem pure_bind (a : α) (next : α → Report β) : pure a >>= next = next a := by
  refine ext ?_ ?_
  · rw [log_bind]
    simp
  · rw [outcome_bind]
    rfl

private theorem bind_assoc (r : Report α) (f : α → Report β) (g : β → Report γ) :
    r >>= f >>= g = r >>= fun a => f a >>= g := by
  refine ext ?_ ?_
  · simp only [log_bind, outcome_bind]
    cases r.outcome with
    | error fault => simp [bind, Except.bind]
    | ok a => cases h : (f a).outcome <;> simp [bind, Except.bind, h]
  · simp only [outcome_bind]
    cases r.outcome <;> rfl

instance : LawfulMonad Report := LawfulMonad.mk' Report id_map pure_bind bind_assoc

@[simp] theorem outcome_map (r : Report α) (f : α → β) :
    (f <$> r).outcome = r.outcome.map f := by
  rw [map_eq_pure_bind, outcome_bind]
  cases r.outcome <;> rfl

/-- The outcome of a step for every item is that of the outcomes of the steps. -/
@[simp] theorem outcome_mapM (f : α → Report β) (items : List α) :
    (items.mapM f).outcome = items.mapM fun item => (f item).outcome := by
  induction items with
  | nil => rfl
  | cons item rest ih =>
      rw [List.mapM_cons, List.mapM_cons, outcome_bind]
      congr
      funext b
      rw [outcome_bind, ih]
      rfl

/-- A refusal is answered by what follows it; any other fault passes. -/
@[simp] theorem outcome_afterRefusal (r : Report α) (next : Fault → Report α) :
    (r.afterRefusal next).outcome = match r.outcome with
      | .ok a => .ok a
      | .error fault => if fault.isRefusal then (next fault).outcome else .error fault := by
  unfold afterRefusal
  split
  · next fault h => split <;> simp_all
  · next a h => simp_all

end Report

namespace Outcome

variable {α β : Type}

/-- The operation ends with a fault. -/
def Fails (x : Except Fault α) : Prop := ∃ fault, x = .error fault

/-! ### Answers -/

@[simp] theorem ok_bind (a : α) (f : α → Except Fault β) : (Except.ok a >>= f) = f a := rfl

@[simp] theorem error_bind (fault : Fault) (f : α → Except Fault β) :
    (Except.error fault >>= f) = .error fault := rfl

theorem not_fails_iff {x : Except Fault α} : ¬ Fails x ↔ ∃ a, x = .ok a := by
  cases x with
  | error fault => exact ⟨fun h => absurd ⟨fault, rfl⟩ h, nofun⟩
  | ok a => exact ⟨fun _ => ⟨a, rfl⟩, fun _ => nofun⟩

theorem bind_eq_ok {ε : Type} {x : Except ε α} {f : α → Except ε β} {b : β} :
    x >>= f = .ok b ↔ ∃ a, x = .ok a ∧ f a = .ok b := by
  cases x with
  | error fault => exact ⟨nofun, nofun⟩
  | ok a =>
      constructor
      · intro h
        exact ⟨a, rfl, h⟩
      · intro h
        obtain ⟨a', ha, h⟩ := h
        cases ha
        exact h

theorem map_eq_ok {ε : Type} {x : Except ε α} {f : α → β} {b : β} :
    x.map f = .ok b ↔ ∃ a, x = .ok a ∧ f a = b := by
  cases x with
  | error fault => exact ⟨nofun, nofun⟩
  | ok a =>
      constructor
      · intro h
        cases h
        exact ⟨a, rfl, rfl⟩
      · intro h
        obtain ⟨a', ha, rfl⟩ := h
        cases ha
        rfl

/-- Two steps of which neither takes notice of the other have an answer if both have one. -/
theorem both_eq_ok {ε γ : Type} {x : Except ε α} {y : Except ε β} {f : α → β → γ} {c : γ} :
    (do let a ← x; let b ← y; return f a b) = .ok c ↔
      ∃ a b, x = .ok a ∧ y = .ok b ∧ c = f a b := by
  rw [bind_eq_ok]
  constructor
  · intro h
    obtain ⟨a, ha, h⟩ := h
    obtain ⟨b, hb, heq⟩ := bind_eq_ok.mp h
    cases heq
    exact ⟨a, b, ha, hb, rfl⟩
  · intro h
    obtain ⟨a, b, ha, hb, rfl⟩ := h
    exact ⟨a, ha, bind_eq_ok.mpr ⟨b, hb, rfl⟩⟩

/-- A list is made longer by an answer if both parts have one. -/
theorem cons_eq_ok {ε : Type} {x : Except ε α} {xs : Except ε (List α)} {as : List α} :
    (do return (← x) :: (← xs)) = .ok as ↔
      ∃ a rest, x = .ok a ∧ xs = .ok rest ∧ as = a :: rest :=
  both_eq_ok

/-- Every item has an answer, in order. -/
theorem mapM_eq_ok {f : α → Except Fault β} {items : List α} {answers : List β} :
    items.mapM f = .ok answers ↔ List.Forall₂ (fun item a => f item = .ok a) items answers := by
  induction items generalizing answers with
  | nil =>
      rw [List.mapM_nil, List.forall₂_nil_left_iff]
      constructor
      · intro h
        cases h
        rfl
      · intro heq
        subst heq
        rfl
  | cons item rest ih =>
      rw [List.mapM_cons, bind_eq_ok, List.forall₂_cons_left_iff]
      constructor
      · intro h
        obtain ⟨a, ha, h⟩ := h
        obtain ⟨as, has, heq⟩ := bind_eq_ok.mp h
        cases heq
        exact ⟨a, as, ha, ih.mp has, rfl⟩
      · intro h
        obtain ⟨a, as, ha, has, rfl⟩ := h
        exact ⟨a, ha, bind_eq_ok.mpr ⟨as, ih.mpr has, rfl⟩⟩

/-! ### Faults -/

@[simp] theorem fails_error (fault : Fault) : Fails (.error fault : Except Fault α) := ⟨fault, rfl⟩

@[simp] theorem not_fails_ok (a : α) : ¬ Fails (.ok a) := nofun

@[simp] theorem fails_map {x : Except Fault α} {f : α → β} : Fails (x.map f) ↔ Fails x := by
  cases x with
  | error fault => exact iff_of_true ⟨fault, rfl⟩ ⟨fault, rfl⟩
  | ok a => exact iff_of_false (not_fails_ok (f a)) (not_fails_ok a)

/-- A sequence fails in its first step, or in the second one after an answer. -/
theorem fails_bind {x : Except Fault α} {f : α → Except Fault β} :
    Fails (x >>= f) ↔ Fails x ∨ ∃ a, x = .ok a ∧ Fails (f a) := by
  cases x with
  | error fault => exact iff_of_true ⟨fault, rfl⟩ (.inl ⟨fault, rfl⟩)
  | ok a =>
      constructor
      · intro h
        exact .inr ⟨a, rfl, h⟩
      · intro h
        rcases h with h | ⟨a', ha, h⟩
        · exact absurd h (not_fails_ok a)
        · cases ha
          exact h

/-- Whether two steps fail does not depend on the answer of the first if the second takes
no notice of it. -/
theorem fails_bind_const {x : Except Fault α} {f : α → Except Fault β} {p : Prop}
    (h : ∀ a, Fails (f a) ↔ p) : Fails (x >>= f) ↔ Fails x ∨ p := by
  cases x with
  | error fault => exact iff_of_true ⟨fault, rfl⟩ (.inl ⟨fault, rfl⟩)
  | ok a =>
      refine (h a).trans ⟨.inr, ?_⟩
      intro h
      rcases h with hx | hp
      · exact absurd hx (not_fails_ok a)
      · exact hp

/-- A step that always has an answer does not fail a sequence. -/
@[simp] theorem fails_bind_ok {x : Except Fault α} {f : α → β} :
    (Fails do let a ← x; .ok (f a)) ↔ Fails x := by
  rw [fails_bind_const (p := False) fun a => iff_of_false (not_fails_ok (f a)) id, or_false]

/-- Two steps of which neither takes notice of the other fail if one of them does. -/
theorem fails_both {γ : Type} {x : Except Fault α} {y : Except Fault β} {f : α → β → γ} :
    Fails (do let a ← x; let b ← y; return f a b) ↔ Fails x ∨ Fails y :=
  fails_bind_const fun _ => fails_bind_ok

/-- A step for every item fails if it fails for some. -/
theorem fails_mapM {f : α → Except Fault β} {items : List α} :
    Fails (items.mapM f) ↔ ∃ item ∈ items, Fails (f item) := by
  induction items with
  | nil => exact iff_of_false (not_fails_ok _) (by simp)
  | cons item rest ih =>
      rw [List.mapM_cons, fails_both, ih]
      simp

/-! ### The only fault -/

/-- The operation has no fault but this one. -/
def OnlyFault (fault : Fault) (x : Except Fault α) : Prop := ∀ other, x = .error other → other = fault

@[simp] theorem onlyFault_ok (fault : Fault) (a : α) : OnlyFault fault (.ok a) := nofun

@[simp] theorem onlyFault_error (fault : Fault) :
    OnlyFault fault (.error fault : Except Fault α) := by
  intro other h
  cases h
  rfl

theorem onlyFault_of_not_fails {fault : Fault} {x : Except Fault α} (h : ¬ Fails x) :
    OnlyFault fault x := by
  intro other hx
  exact absurd ⟨other, hx⟩ h

theorem onlyFault_bind {fault : Fault} {x : Except Fault α} {f : α → Except Fault β}
    (hx : OnlyFault fault x) (hf : ∀ a, OnlyFault fault (f a)) : OnlyFault fault (x >>= f) := by
  cases x with
  | error other =>
      obtain rfl := hx other rfl
      exact onlyFault_error other
  | ok a => exact hf a

theorem onlyFault_map {fault : Fault} {x : Except Fault α} {f : α → β} (hx : OnlyFault fault x) :
    OnlyFault fault (x.map f) := by
  cases x with
  | error other =>
      obtain rfl := hx other rfl
      exact onlyFault_error other
  | ok a => exact onlyFault_ok fault (f a)

/-- With an only fault, to fail is to fail by it. -/
theorem OnlyFault.eq_error_iff {fault other : Fault} {x : Except Fault α}
    (h : OnlyFault fault x) : x = .error other ↔ Fails x ∧ other = fault := by
  constructor
  · intro hx
    exact ⟨⟨other, hx⟩, h other hx⟩
  · intro hx
    obtain ⟨⟨third, hthird⟩, rfl⟩ := hx
    rw [hthird, h third hthird]

/-! ### Faults that are no refusals

Operations on tables and catalogs answer a refusal by nothing; any other fault ends them.
-/

/-- A fault of the operation, if it has one, is no refusal. -/
def Unrefused (x : Except Fault α) : Prop := ∀ fault, x = .error fault → fault.isRefusal = false

theorem OnlyFault.unrefused {fault : Fault} {x : Except Fault α} (h : OnlyFault fault x)
    (hfault : fault.isRefusal = false) : Unrefused x := by
  intro other hx
  rw [h other hx, hfault]

@[simp] theorem unrefused_ok (a : α) : Unrefused (.ok a) := nofun

theorem unrefused_error {fault : Fault} (h : fault.isRefusal = false) :
    Unrefused (.error fault : Except Fault α) := by
  intro other heq
  cases heq
  exact h

theorem unrefused_bind {x : Except Fault α} {f : α → Except Fault β} (hx : Unrefused x)
    (hf : ∀ a, Unrefused (f a)) : Unrefused (x >>= f) := by
  cases x with
  | error fault => exact unrefused_error (hx fault rfl)
  | ok a => exact hf a

theorem unrefused_mapM {f : α → Except Fault β} {items : List α} (hf : ∀ item, Unrefused (f item)) :
    Unrefused (items.mapM f) := by
  induction items with
  | nil => exact unrefused_ok []
  | cons item rest ih =>
      rw [List.mapM_cons]
      exact unrefused_bind (hf item) fun a => unrefused_bind ih fun as => unrefused_ok (a :: as)

/-- The operation ends with a fault that is no refusal. -/
def Escapes (x : Except Fault α) : Prop := ∃ fault, x = .error fault ∧ fault.isRefusal = false

theorem escapes_iff_fails {x : Except Fault α} (h : Unrefused x) : Escapes x ↔ Fails x := by
  constructor
  · intro h
    obtain ⟨fault, heq, -⟩ := h
    exact ⟨fault, heq⟩
  · intro h
    obtain ⟨fault, heq⟩ := h
    exact ⟨fault, heq, h fault heq⟩

theorem not_escapes_ok (a : α) : ¬ Escapes (.ok a : Except Fault α) := by
  intro h
  obtain ⟨fault, heq, -⟩ := h
  cases heq

theorem not_escapes_refusal {fault : Fault} (h : fault.isRefusal = true) :
    ¬ Escapes (.error fault : Except Fault α) := by
  intro h
  obtain ⟨other, heq, hother⟩ := h
  cases heq
  rw [h] at hother
  cases hother

/-- A fault escapes a sequence in its first step, or in the second one after an answer. -/
theorem escapes_bind {x : Except Fault α} {f : α → Except Fault β} :
    Escapes (x >>= f) ↔ Escapes x ∨ ∃ a, x = .ok a ∧ Escapes (f a) := by
  cases x with
  | error fault =>
      constructor
      · intro h
        obtain ⟨other, heq, h⟩ := h
        cases heq
        exact .inl ⟨fault, rfl, h⟩
      · intro h
        rcases h with ⟨other, heq, h⟩ | ⟨a, ha, -⟩
        · cases heq
          exact ⟨fault, rfl, h⟩
        · cases ha
  | ok a =>
      constructor
      · intro h
        exact .inr ⟨a, rfl, h⟩
      · intro h
        rcases h with h | ⟨a', ha, h⟩
        · exact absurd h (not_escapes_ok a)
        · cases ha
          exact h

@[simp] theorem escapes_bind_ok {x : Except Fault α} {f : α → β} :
    (Escapes do let a ← x; .ok (f a)) ↔ Escapes x := by
  rw [escapes_bind]
  refine or_iff_left ?_
  intro h
  obtain ⟨a, -, h⟩ := h
  exact not_escapes_ok _ h

/-- After a refusal that is answered, only other faults are left. -/
theorem fails_afterRefusal {r : Report α} {next : Fault → Report α}
    (hnext : ∀ fault, ¬ Fails (next fault).outcome) :
    Fails (r.afterRefusal next).outcome ↔ Escapes r.outcome := by
  rw [Report.outcome_afterRefusal]
  cases r.outcome with
  | ok a => exact iff_of_false (not_fails_ok a) (not_escapes_ok a)
  | error fault =>
      dsimp only
      split
      · next hrefusal => exact iff_of_false (hnext fault) (not_escapes_refusal hrefusal)
      · next hrefusal =>
          exact iff_of_true (fails_error fault) ⟨fault, rfl, by simpa using hrefusal⟩

/-! ### The first item that is not good -/

/-- A bad item comes after good ones only. -/
def Reaches (good bad : α → Prop) (items : List α) : Prop :=
  ∃ before item after, items = before ++ item :: after ∧ (∀ other ∈ before, good other) ∧ bad item

theorem not_reaches_nil {good bad : α → Prop} : ¬ Reaches good bad [] := by
  intro h
  obtain ⟨before, item, after, heq, -⟩ := h
  simp at heq

theorem reaches_cons {good bad : α → Prop} {item : α} {rest : List α} :
    Reaches good bad (item :: rest) ↔ bad item ∨ (good item ∧ Reaches good bad rest) := by
  constructor
  · intro h
    obtain ⟨before, other, after, heq, hgood, hbad⟩ := h
    cases before with
    | nil =>
        cases heq
        exact .inl hbad
    | cons first before =>
        cases heq
        exact .inr ⟨hgood _ (by simp), before, other, after, rfl,
          fun x hx => hgood x (by simp [hx]), hbad⟩
  · intro h
    rcases h with hbad | ⟨hgood, before, other, after, rfl, hbefore, hbad⟩
    · exact ⟨[], item, rest, rfl, by simp, hbad⟩
    · exact ⟨item :: before, other, after, rfl, List.forall_mem_cons.mpr ⟨hgood, hbefore⟩, hbad⟩

/-- Where all items are good, a bad one is reached if there is one. -/
theorem reaches_iff_exists {good bad : α → Prop} {items : List α}
    (hgood : ∀ item ∈ items, good item) : Reaches good bad items ↔ ∃ item ∈ items, bad item := by
  constructor
  · intro h
    obtain ⟨before, item, after, rfl, -, hbad⟩ := h
    exact ⟨item, by simp, hbad⟩
  · intro h
    obtain ⟨item, hmem, hbad⟩ := h
    obtain ⟨before, after, rfl⟩ := List.append_of_mem hmem
    exact ⟨before, item, after, rfl, fun other hother => hgood other (by simp [hother]), hbad⟩

end Outcome

end RowShell
