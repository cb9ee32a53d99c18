/-
The condition of a filter.

A schema turns a filter into a condition by one step for every operand: the comparison
of a column with a literal.  Two things are proved of that.  It fails exactly if some
operand has no literal, `fails_conditions`; where the operand stands in the tree does not
matter.  Otherwise the condition, pruned, is the pruned filter, `conditions_eq_ok`.

The pruned filter is described on the filter itself.  A clause becomes the conditions
that it lists: none for a column that the schema lacks, one for each comparison of a
group, and at most one for alternatives.  Alternatives list what is left of their
branches, and what lists a single condition is that condition.
-/
import RowShell.Proofs.Outcome
import RowShell.Proofs.Sql.Written
import RowShell.Schema.Selection

namespace RowShell

open Outcome

/-! ### The operands of a filter -/

mutual

/-- The operands of a clause, each with the name of the column that it is compared to. -/
def Clause.operands : Clause → List (String × Value)
  | .equals name operand => [(name, operand)]
  | .compares name comparisons => comparisons.map fun (_, operand) => (name, operand)
  | .anyOf branches => branchOperands branches

def Filter.operands : List Clause → List (String × Value)
  | [] => []
  | clause :: rest => clause.operands ++ Filter.operands rest

def branchOperands : List (List Clause) → List (String × Value)
  | [] => []
  | branch :: rest => Filter.operands branch ++ branchOperands rest

end

namespace Schema

/-- A column that is found is one of the schema, and has the name. -/
theorem of_find?_eq_some {schema : Schema} {name : String} {column : Column}
    (h : schema.find? name = some column) : column ∈ schema.columns ∧ column.name = name := by
  rw [find?, Keyed.find?] at h
  exact ⟨List.mem_of_find?_eq_some h, by simpa using List.find?_some h⟩

/-- The schema has the column, and the value no literal for it. -/
def LacksLiteral (schema : Schema) (entry : String × Value) : Prop :=
  ∃ column, schema.find? entry.1 = some column ∧ Fails (column.literal entry.2).outcome

/-! ### Condition by condition -/

theorem outcome_conditions_cons {schema : Schema} (clause : Clause) (rest : List Clause) :
    (schema.conditions (clause :: rest)).outcome = do
      let first ← (schema.clauseConditions clause).outcome
      let others ← (schema.conditions rest).outcome
      return first ++ others := by
  rw [conditions, Report.outcome_bind]
  congr
  funext first
  rw [Report.outcome_bind]
  rfl

theorem outcome_branchConditions_cons {schema : Schema} (branch : List Clause)
    (rest : List (List Clause)) :
    (schema.branchConditions (branch :: rest)).outcome = do
      let first ← (schema.conditions branch).outcome
      let others ← (schema.branchConditions rest).outcome
      return .all first :: others := by
  rw [branchConditions, Report.outcome_bind]
  congr
  funext first
  rw [Report.outcome_bind]
  rfl

theorem conditions_cons_eq_ok {schema : Schema} {clause : Clause} {rest : List Clause}
    {cs : List Condition} : (schema.conditions (clause :: rest)).outcome = .ok cs ↔
      ∃ first others, (schema.clauseConditions clause).outcome = .ok first ∧
        (schema.conditions rest).outcome = .ok others ∧ cs = first ++ others := by
  rw [outcome_conditions_cons]
  exact both_eq_ok

theorem branchConditions_cons_eq_ok {schema : Schema} {branch : List Clause}
    {rest : List (List Clause)} {cs : List Condition} :
    (schema.branchConditions (branch :: rest)).outcome = .ok cs ↔
      ∃ first others, (schema.conditions branch).outcome = .ok first ∧
        (schema.branchConditions rest).outcome = .ok others ∧ cs = .all first :: others := by
  rw [outcome_branchConditions_cons]
  exact both_eq_ok

theorem clauseConditions_anyOf_eq_ok {schema : Schema} {branches : List (List Clause)}
    {cs : List Condition} : (schema.clauseConditions (.anyOf branches)).outcome = .ok cs ↔
      ∃ ts, (schema.branchConditions branches).outcome = .ok ts ∧ cs = [.any ts] := by
  rw [clauseConditions, Report.outcome_bind, bind_eq_ok]
  refine exists_congr fun ts => and_congr_right fun _ => ?_
  constructor
  · intro heq
    cases heq
    rfl
  · intro heq
    subst heq
    rfl

/-- The conditions of a group are those of its comparisons in order. -/
theorem clauseConditions_compares_eq_ok {schema : Schema} {name : String}
    {comparisons : List (Operator × Value)} {cs : List Condition} :
    (schema.clauseConditions (.compares name comparisons)).outcome = .ok cs ↔
      ∃ css, List.Forall₂ (fun (entry : Operator × Value) cs =>
        (schema.comparison name entry.1.sql entry.2).outcome = .ok cs) comparisons css ∧
        cs = css.flatten := by
  rw [clauseConditions, Report.outcome_bind, Report.outcome_mapM, bind_eq_ok]
  simp only [mapM_eq_ok]
  refine exists_congr fun css => and_congr_right fun _ => ?_
  constructor
  · intro heq
    cases heq
    rfl
  · intro heq
    subst heq
    rfl

/-! ### Failure -/

theorem fails_comparison {schema : Schema} {name sign : String} {operand : Value} :
    Fails (schema.comparison name sign operand).outcome ↔ schema.LacksLiteral (name, operand) := by
  unfold comparison LacksLiteral
  cases hfind : schema.find? name with
  | none => simp
  | some column =>
      simp only [Report.outcome_bind, Report.outcome_pure, fails_bind_ok]
      simp

theorem exists_mem_append {α : Type} {p : α → Prop} {xs ys : List α} :
    (∃ x ∈ xs ++ ys, p x) ↔ (∃ x ∈ xs, p x) ∨ ∃ y ∈ ys, p y := by
  simp only [List.mem_append, or_and_right, exists_or]

mutual

theorem fails_clauseConditions {schema : Schema} : ∀ {clause : Clause},
    Fails (schema.clauseConditions clause).outcome ↔
      ∃ entry ∈ clause.operands, schema.LacksLiteral entry
  | .equals name operand => by
      rw [clauseConditions, fails_comparison]
      simp [Clause.operands]
  | .compares name comparisons => by
      simp only [clauseConditions, Report.outcome_bind, Report.outcome_pure, Report.outcome_mapM,
        fails_bind_ok, fails_mapM, fails_comparison]
      rw [Clause.operands]
      constructor
      · intro h
        obtain ⟨entry, hmem, h⟩ := h
        exact ⟨_, List.mem_map_of_mem hmem, h⟩
      · intro h
        obtain ⟨entry, hmem, h⟩ := h
        obtain ⟨comparison, hcomparison, rfl⟩ := List.mem_map.mp hmem
        exact ⟨comparison, hcomparison, h⟩
  | .anyOf branches => by
      simp only [clauseConditions, Report.outcome_bind, Report.outcome_pure, fails_bind_ok]
      rw [fails_branchConditions, Clause.operands]

/-- **A filter has no condition exactly if some operand has no literal.** -/
theorem fails_conditions {schema : Schema} : ∀ {filter : List Clause},
    Fails (schema.conditions filter).outcome ↔
      ∃ entry ∈ Filter.operands filter, schema.LacksLiteral entry
  | [] => by
      rw [conditions, Report.outcome_pure]
      simp [Filter.operands]
  | clause :: rest => by
      rw [outcome_conditions_cons, fails_both, fails_clauseConditions, fails_conditions,
        Filter.operands, exists_mem_append]

theorem fails_branchConditions {schema : Schema} : ∀ {branches : List (List Clause)},
    Fails (schema.branchConditions branches).outcome ↔
      ∃ entry ∈ branchOperands branches, schema.LacksLiteral entry
  | [] => by
      rw [branchConditions, Report.outcome_pure]
      simp [branchOperands]
  | branch :: rest => by
      rw [outcome_branchConditions_cons, fails_both, fails_conditions, fails_branchConditions,
        branchOperands, exists_mem_append]

end

/-! ### The pruned filter -/

/-- The comparison of a column with the literal of an operand, if the schema has the
column. -/
def atoms (schema : Schema) (name sign : String) (operand : Value) : List Condition :=
  match schema.find? name with
  | none => []
  | some column =>
    match (column.literal operand).outcome with
    | .ok literal => [.compare name sign literal]
    | .error _ => []

mutual

/-- The conditions that a clause lists. -/
def clauseMembers (schema : Schema) : Clause → List Condition
  | .equals name operand => schema.atoms name "=" operand
  | .compares name comparisons =>
    comparisons.flatMap fun (op, operand) => schema.atoms name op.sql operand
  | .anyOf branches => (Condition.joined? .any (branchMembers schema branches)).toList

def members (schema : Schema) : List Clause → List Condition
  | [] => []
  | clause :: rest => clauseMembers schema clause ++ members schema rest

/-- What is left of branches. -/
def branchMembers (schema : Schema) : List (List Clause) → List Condition
  | [] => []
  | branch :: rest =>
    (Condition.joined? .all (members schema branch)).toList ++ branchMembers schema rest

end

/-- A filter without what says nothing about the columns of the schema; nothing if that
is all of it. -/
def pruned (schema : Schema) (filter : Filter) : Option Condition :=
  Condition.joined? .all (schema.members filter)

end Schema

/-! ### Conditions that are the filter -/

namespace Condition

open Sql

theorem prunedEach_append (ts us : List Condition) :
    prunedEach (ts ++ us) = prunedEach ts ++ prunedEach us := by
  induction ts with
  | nil => rfl
  | cons t ts ih => rw [List.cons_append, prunedEach, prunedEach, ih, List.append_assoc]

theorem plainEach_append {ts us : List Condition} (hts : PlainEach ts) (hus : PlainEach us) :
    PlainEach (ts ++ us) := by
  induction ts with
  | nil => exact hus
  | cons t ts ih => exact ⟨hts.1, ih hts.2⟩

/-- The conditions can be written, and what is left of them are the members. -/
def Lists (ts members : List Condition) : Prop := PlainEach ts ∧ prunedEach ts = members

theorem lists_nil : Lists [] [] := ⟨trivial, rfl⟩

theorem Lists.append {ts us members members' : List Condition} (h : Lists ts members)
    (h' : Lists us members') : Lists (ts ++ us) (members ++ members') := by
  refine ⟨plainEach_append h.1 h'.1, ?_⟩
  rw [prunedEach_append, h.2, h'.2]

theorem Lists.all {ts members : List Condition} (h : Lists ts members) :
    Lists [.all ts] (joined? .all members).toList := by
  refine ⟨⟨h.1, trivial⟩, ?_⟩
  rw [prunedEach, pruned, h.2]
  exact List.append_nil _

theorem Lists.any {ts members : List Condition} (h : Lists ts members) :
    Lists [.any ts] (joined? .any members).toList := by
  refine ⟨⟨h.1, trivial⟩, ?_⟩
  rw [prunedEach, pruned, h.2]
  exact List.append_nil _

end Condition

namespace Schema

open Sql Condition

/-- Every name can be written without quotes. -/
def Plain (schema : Schema) : Prop := ∀ name ∈ schema.names, IsName name

instance (schema : Schema) : Decidable schema.Plain :=
  inferInstanceAs (Decidable (∀ name ∈ schema.names, IsName name))

theorem Plain.isName {schema : Schema} (h : schema.Plain) {name : String} {column : Column}
    (hfind : schema.find? name = some column) : IsName name := by
  obtain ⟨hmem, rfl⟩ := of_find?_eq_some hfind
  exact h _ (List.mem_map_of_mem hmem)

theorem sql_mem_comparisonSigns (op : Operator) : op.sql ∈ comparisonSigns := by
  cases op <;> decide

variable {schema : Schema}

theorem comparison_eq_ok (hplain : schema.Plain) {name sign : String}
    (hsign : sign ∈ comparisonSigns) {operand : Value} {cs : List Condition}
    (h : (schema.comparison name sign operand).outcome = .ok cs) :
    Lists cs (schema.atoms name sign operand) := by
  unfold comparison at h
  unfold atoms
  cases hfind : schema.find? name with
  | none =>
      rw [hfind] at h
      cases h
      exact lists_nil
  | some column =>
      rw [hfind, Report.outcome_bind] at h
      obtain ⟨literal, hliteral, heq⟩ := bind_eq_ok.mp h
      cases heq
      simp only [hliteral]
      exact ⟨⟨⟨hplain.isName hfind, hsign, Column.isLiteral_of_outcome hliteral⟩, trivial⟩, rfl⟩

/-- A group lists its comparisons in order. -/
theorem lists_flatten (hplain : schema.Plain) {name : String}
    {comparisons : List (Operator × Value)} {css : List (List Condition)}
    (h : List.Forall₂ (fun (entry : Operator × Value) cs =>
      (schema.comparison name entry.1.sql entry.2).outcome = .ok cs) comparisons css) :
    Lists css.flatten (comparisons.flatMap fun (op, operand) => schema.atoms name op.sql operand) := by
  induction h with
  | nil => exact lists_nil
  | cons hfirst _ ih =>
      rw [List.flatten_cons, List.flatMap_cons]
      exact (comparison_eq_ok hplain (sql_mem_comparisonSigns _) hfirst).append ih

mutual

theorem clauseConditions_eq_ok (hplain : schema.Plain) : ∀ {clause : Clause}
    {cs : List Condition}, (schema.clauseConditions clause).outcome = .ok cs →
      Lists cs (schema.clauseMembers clause)
  | .equals name operand, cs, h => by
      rw [clauseConditions] at h
      rw [clauseMembers]
      exact comparison_eq_ok hplain (by decide) h
  | .compares name comparisons, cs, h => by
      obtain ⟨css, hcss, rfl⟩ := clauseConditions_compares_eq_ok.mp h
      rw [clauseMembers]
      exact lists_flatten hplain hcss
  | .anyOf branches, cs, h => by
      obtain ⟨ts, hts, rfl⟩ := clauseConditions_anyOf_eq_ok.mp h
      rw [clauseMembers]
      exact (branchConditions_eq_ok hplain hts).any

/-- **The condition of a filter, pruned, is the pruned filter.** -/
theorem conditions_eq_ok (hplain : schema.Plain) : ∀ {filter : List Clause}
    {cs : List Condition}, (schema.conditions filter).outcome = .ok cs →
      Lists cs (schema.members filter)
  | [], cs, h => by
      rw [conditions] at h
      cases h
      exact lists_nil
  | clause :: rest, cs, h => by
      obtain ⟨first, others, hfirst, hothers, rfl⟩ := conditions_cons_eq_ok.mp h
      rw [members]
      exact (clauseConditions_eq_ok hplain hfirst).append (conditions_eq_ok hplain hothers)

theorem branchConditions_eq_ok (hplain : schema.Plain) : ∀ {branches : List (List Clause)}
    {cs : List Condition}, (schema.branchConditions branches).outcome = .ok cs →
      Lists cs (schema.branchMembers branches)
  | [], cs, h => by
      rw [branchConditions] at h
      cases h
      exact lists_nil
  | branch :: rest, cs, h => by
      obtain ⟨first, others, hfirst, hothers, rfl⟩ := branchConditions_cons_eq_ok.mp h
      rw [branchMembers]
      exact (conditions_eq_ok hplain hfirst).all.append (branchConditions_eq_ok hplain hothers)

end

end Schema

end RowShell
