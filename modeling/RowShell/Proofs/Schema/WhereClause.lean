/-
Where clauses.

What a shell makes of the where clause of a selection is the pruned filter, and there is
no clause if nothing is left of the filter.  `whereSql_reads` joins the two halves: the
conditions of a filter are the filter, and a written condition is read as what is left
of it.
-/
import RowShell.Proofs.Schema.Conditions

namespace RowShell.Schema

open Outcome Sql

variable {schema : Schema} {selection : Selection} {filter : Filter}

theorem outcome_whereSql :
    (schema.whereSql selection).outcome = do
      let filter ← selection.filter?
      let cs ← (schema.conditions filter).outcome
      let text := (Condition.all cs).write.text
      return if text.isEmpty then "" else "where " ++ text := by
  simp only [whereSql, condition, Report.outcome_bind, Report.outcome_liftM, Report.outcome_pure]
  cases selection.filter? with
  | error fault => rfl
  | ok filter =>
      change ((schema.conditions filter).outcome >>= _ >>= _) = ((schema.conditions filter).outcome >>= _)
      cases (schema.conditions filter).outcome <;> rfl

theorem whereSql_eq_ok {sql : String} (h : (schema.whereSql selection).outcome = .ok sql) :
    ∃ filter cs, selection.filter? = .ok filter ∧ (schema.conditions filter).outcome = .ok cs ∧
      sql = if (Condition.all cs).write.text.isEmpty then ""
        else "where " ++ (Condition.all cs).write.text := by
  rw [outcome_whereSql] at h
  obtain ⟨filter, hfilter, h⟩ := bind_eq_ok.mp h
  obtain ⟨cs, hcs, h⟩ := bind_eq_ok.mp h
  cases h
  exact ⟨filter, cs, hfilter, hcs, rfl⟩

/-- **A shell reads the where clause of a selection as the pruned filter, and in no other
way; there is no clause exactly if nothing is left of the filter.** -/
theorem whereSql_reads (hplain : schema.Plain) (hfilter : selection.filter? = .ok filter)
    (hliteral : ∀ entry ∈ Filter.operands filter, ¬ schema.LacksLiteral entry) :
    match schema.pruned filter with
    | none => (schema.whereSql selection).outcome = .ok ""
    | some tree => ∃ text, (schema.whereSql selection).outcome = .ok ("where " ++ text) ∧
        condition? text = some tree ∧ ∀ t, ReadsAs text t ↔ t = tree := by
  have hconditions : ¬ Fails (schema.conditions filter).outcome := by
    rw [fails_conditions]
    intro h
    obtain ⟨entry, hmem, h⟩ := h
    exact hliteral entry hmem h
  obtain ⟨cs, hcs⟩ := not_fails_iff.mp hconditions
  obtain ⟨hplainEach, hpruned⟩ := conditions_eq_ok hplain hcs
  have hspells : Condition.SpellsRest (Condition.all cs).write (schema.pruned filter) := by
    have h := Condition.spells_write (t := .all cs) hplainEach
    rwa [Condition.pruned, hpruned] at h
  have houtcome : (schema.whereSql selection).outcome =
      .ok (if (Condition.all cs).write.text.isEmpty then ""
        else "where " ++ (Condition.all cs).write.text) := by
    rw [outcome_whereSql, hfilter]
    change (schema.conditions filter).outcome >>= _ = _
    rw [hcs]
    rfl
  cases htree : schema.pruned filter with
  | none =>
      rw [htree] at hspells
      rw [houtcome, show (Condition.all cs).write.text = "" from hspells]
      rfl
  | some tree =>
      rw [htree] at hspells
      have hreads : ReadsAs (Condition.all cs).write.text tree := hspells.whole
      refine ⟨(Condition.all cs).write.text, ?_, hreads.condition?_eq, ?_⟩
      · rw [houtcome, if_neg (by simpa using hspells.1)]
      · intro t
        constructor
        · intro h
          exact h.unique hreads
        · intro heq
          subst heq
          exact hreads

/-- A literal that looks like SQL, alternatives of which one loses a clause, and a group. -/
theorem whereSql_reads_alternatives :
    ∃ text, ((ofColumns [.ofType "A" "text" (some 3), .ofType "B" "text" none]).whereSql
        (.document (.map [("A", .map [("$gt", .text "d or x"), ("$ne", .null)]),
          ("C", .text "x"), ("$or", .list [.map [("B", .text "it's")],
            .map [("B", .text ") or ("), ("D", .null)], .map [("D", .null)]])]))).outcome =
          .ok ("where " ++ text) ∧
      condition? text = some (.all [.compare "A" ">" "'d o'", .compare "A" "!=" "null",
        .any [.compare "B" "=" "'it''s'", .compare "B" "=" "') or ('"]]) := by
  have hplain : (ofColumns [.ofType "A" "text" (some 3), .ofType "B" "text" none]).Plain := by decide
  have hfilter : (Selection.document (.map [("A", .map [("$gt", .text "d or x"), ("$ne", .null)]),
      ("C", .text "x"), ("$or", .list [.map [("B", .text "it's")],
        .map [("B", .text ") or ("), ("D", .null)], .map [("D", .null)]])])).filter? =
      .ok [.compares "A" [(.gt, .text "d or x"), (.ne, .null)], .equals "C" (.text "x"),
        .anyOf [[.equals "B" (.text "it's")], [.equals "B" (.text ") or ("), .equals "D" .null],
          [.equals "D" .null]]] := rfl
  have hreads := whereSql_reads hplain hfilter ?_
  · obtain ⟨text, houtcome, hread, -⟩ := hreads
    exact ⟨text, houtcome, hread⟩
  · rintro entry hmem ⟨column, hfind, fault, hfault⟩
    have hmem' : entry ∈ [("A", Value.text "d or x"), ("A", .null), ("C", .text "x"),
        ("B", .text "it's"), ("B", .text ") or ("), ("D", .null), ("D", .null)] := hmem
    simp only [List.mem_cons, List.not_mem_nil, or_false] at hmem'
    rcases hmem' with rfl | rfl | rfl | rfl | rfl | rfl | rfl <;> cases hfind <;> cases hfault

end RowShell.Schema
