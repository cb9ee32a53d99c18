/-
Discovery together and apart.

The columns of all tables can be asked for by one script or by one for each table.  The
shell prints the same either way, one listing after another, so both ways have to find
the same catalog or fail alike.  Listings that are asked for together are told apart by
their brackets, and `split_spaced` says that this gives back the listings; those asked
for apart are trimmed, which does the same as long as a listing is a group.

From there on both ways read the listings of the tables in order up to the first that is
refused, `readSchemas`.
-/
import RowShell.Catalog.Basic
import RowShell.Proofs.Catalog.Groups
import RowShell.Proofs.Dialogue

namespace RowShell

open Outcome

/-! ### A listing and the blanks around it -/

namespace Chunks

theorem isBlank_of_isSpace {c : Char} (h : Json.isSpace c = true) : Text.isBlank c = true := by
  simp only [Json.isSpace, Bool.or_eq_true, beq_iff_eq] at h
  rcases h with ((rfl | rfl) | rfl) | rfl <;> decide

/-- Trimming leaves the group. -/
theorem IsSpaced.trim {group text : List Char} (h : IsSpaced group text) :
    Text.trim text = group := by
  obtain ⟨hgroup, before, after, hbefore, hafter, rfl⟩ := h
  have hstart : Text.trimStart (before ++ group ++ after) = group ++ after := by
    obtain ⟨rest, rfl⟩ := List.head?_eq_some_iff.mp hgroup.opens
    rw [Text.trimStart, List.append_assoc,
      List.dropWhile_append_of_pos fun c hc => isBlank_of_isSpace (hbefore c hc), List.cons_append]
    exact List.dropWhile_cons_of_neg (by decide)
  have hend : Text.trimStart (group ++ after).reverse = group.reverse := by
    obtain ⟨rest, rfl, -⟩ := hgroup.eq_concat
    rw [Text.trimStart, List.reverse_append, List.dropWhile_append_of_pos fun c hc =>
      isBlank_of_isSpace (hafter c (List.mem_reverse.mp hc)), List.reverse_concat]
    exact List.dropWhile_cons_of_neg (by decide)
  rw [Text.trim, hstart, Text.trimEnd, hend, List.reverse_reverse]

/-- A group is no empty text. -/
theorem IsGroup.not_isEmpty {cs : List Char} (h : IsGroup cs) :
    (String.ofList cs).isEmpty = false := by
  obtain ⟨rest, rfl⟩ := List.head?_eq_some_iff.mp h.opens
  simp

/-- Texts that are joined are split into their groups. -/
theorem ofText_join {groups : List (List Char)} {texts : List String}
    (h : List.Forall₂ (fun group text => IsSpaced group text.toList) groups texts) :
    ofText (String.join texts) = groups.map String.ofList := by
  have hsplit : split (texts.map String.toList).flatten = groups := by
    refine split_spaced ?_
    rwa [List.forall₂_map_right_iff]
  rw [ofText, String.toList_join, List.flatMap_def, hsplit]

end Chunks

/-! ### Discovery step by step

What discovery makes of each answer, whatever the executor.
-/

namespace Catalog

open Chunks

section

variable {σ : Type} (executor : Executor σ) (target : String) (s : σ)

/-- The listing in the output for one table. -/
def listingOf (output : String) : String :=
  if (Text.strip output).isEmpty then "[]" else Text.strip output

/-- The catalog of tables with their schemas. -/
def ofSchemas (target : String) (names : List String) (schemas : List Schema) : Catalog :=
  ofTables target ((names.zip schemas).map fun (name, schema) => ⟨target, name, schema⟩)

/-- The calls for the columns of all tables and of one table. -/
def columnsCall (target : String) (names : List String) : Call :=
  ⟨target, String.join (names.map tableInfoSql), .readJson⟩

def columnCall (target name : String) : Call := ⟨target, tableInfoSql name, .readJson⟩

theorem outcome_schemasTogether (names : List String) :
    ((schemasTogether target names).run executor s).1.outcome =
      (executor (columnsCall target names) s).1.outcome >>= fun output? =>
        match output? with
        | none => .ok none
        | some output =>
          if (ofText output).length = names.length then
            (readSchemas (names.zip (ofText output))).outcome
          else .ok none := by
  rw [schemasTogether, Dialogue.outcome_run_bind, Dialogue.outcome_run_call, columnsCall]
  congr 1
  funext output?
  cases output? with
  | none => rfl
  | some output =>
      dsimp only
      split <;> rfl

theorem outcome_schemasApart_cons (name : String) (rest : List String) :
    ((schemasApart target (name :: rest)).run executor s).1.outcome =
      (executor (columnCall target name) s).1.outcome >>= fun output? =>
        match output? with
        | none => .ok none
        | some output => (readSchema name (listingOf output)).outcome >>= fun schema? =>
          match schema? with
          | none => .ok none
          | some schema =>
            ((schemasApart target rest).run executor
              (executor (columnCall target name) s).2).1.outcome.map (Option.map (schema :: ·)) := by
  rw [schemasApart, Dialogue.outcome_run_bind, Dialogue.outcome_run_call, Dialogue.state_run_call,
    columnCall]
  congr 1
  funext output?
  cases output? with
  | none => rfl
  | some output =>
      rw [Dialogue.outcome_run_bind, Dialogue.outcome_run_liftM, Dialogue.state_run_liftM]
      congr 1
      funext schema?
      cases schema? with
      | none => rfl
      | some schema =>
          rw [Dialogue.outcome_run_bind]
          generalize ((schemasApart target rest).run executor _).1.outcome = schemas?
          cases schemas? <;> rfl

theorem outcome_discover (together : Bool) :
    ((discover target together).run executor s).1.outcome =
      (executor ⟨target, listTables, .read⟩ s).1.outcome >>= fun listing? =>
        match listing? with
        | none => .ok none
        | some listing =>
          if (Text.words listing).isEmpty then .ok (some (ofTables target []))
          else
            (((if together then schemasTogether target (Text.words listing)
              else schemasApart target (Text.words listing)).run executor
                (executor ⟨target, listTables, .read⟩ s).2).1.outcome).map
              (Option.map (ofSchemas target (Text.words listing))) := by
  rw [discover, Dialogue.outcome_run_bind, Dialogue.outcome_run_call, Dialogue.state_run_call]
  congr 1
  funext listing?
  cases listing? with
  | none => rfl
  | some listing =>
      dsimp only
      split
      · rfl
      · cases together <;>
        · simp only [if_true, Bool.false_eq_true, if_false]
          rw [Dialogue.outcome_run_bind]
          generalize (Dialogue.run executor _ _).1.outcome = schemas?
          rcases schemas? with fault | (- | schemas) <;> rfl

end

/-! ### The two ways to ask -/

/-- What the shell answers when it is asked for the columns of tables: one group for each
table, and for all tables together the same one after another. -/
structure AnswersInGroups (answer : String → Option String) (names : List String)
    (output : String → String) (group : String → List Char) : Prop where
  apart : ∀ name ∈ names, answer (tableInfoSql name) = some (output name)
  spaced : ∀ name ∈ names, IsSpaced (group name) (output name).toList
  together : answer (String.join (names.map tableInfoSql)) = some (String.join (names.map output))

/-- The listings of tables with their names. -/
def listings (names : List String) (group : String → List Char) : List (String × String) :=
  names.map fun name => (name, String.ofList (group name))

/-- The listing of a table is the group in the output. -/
theorem listingOf_spaced {group : List Char} {output : String} (h : IsSpaced group output.toList) :
    listingOf output = String.ofList group := by
  rw [listingOf, Text.strip, h.trim, h.1.not_isEmpty]
  rfl

section

variable {answer : String → Option String} {names : List String} {output : String → String}
  {group : String → List Char} {σ : Type} {executor : Executor σ}

theorem schemasTogether_groups
    (hanswer : ∀ call s, (executor call s).1.outcome = .ok (answer call.script))
    (h : AnswersInGroups answer names output group) (target : String) (s : σ) :
    ((schemasTogether target names).run executor s).1.outcome =
      (readSchemas (listings names group)).outcome := by
  have hgroups : ofText (String.join (names.map output)) =
      (names.map group).map String.ofList := by
    refine ofText_join ?_
    rw [List.forall₂_map_left_iff, List.forall₂_map_right_iff, List.forall₂_same]
    exact h.spaced
  have hlistings : names.zip ((names.map group).map String.ofList) = listings names group := by
    rw [List.map_map]
    exact List.map_prod_left_eq_zip.symm
  rw [outcome_schemasTogether, hanswer, columnsCall, h.together, ok_bind]
  simp only [hgroups, hlistings]
  exact if_pos (by simp)

theorem schemasApart_groups
    (hanswer : ∀ call s, (executor call s).1.outcome = .ok (answer call.script)) (target : String)
    (happart : ∀ name ∈ names, answer (tableInfoSql name) = some (output name))
    (hspaced : ∀ name ∈ names, IsSpaced (group name) (output name).toList) (s : σ) :
    ((schemasApart target names).run executor s).1.outcome =
      (readSchemas (listings names group)).outcome := by
  induction names generalizing s with
  | nil => rfl
  | cons name rest ih =>
      have hrest := ih (fun other hother => happart other (by simp [hother]))
        (fun other hother => hspaced other (by simp [hother]))
      rw [outcome_schemasApart_cons, hanswer, columnCall, happart name (by simp), ok_bind, listings,
        List.map_cons, readSchemas, Report.outcome_bind]
      simp only [listingOf_spaced (hspaced name (by simp)), hrest]
      congr 1
      funext schema?
      cases schema? with
      | none => rfl
      | some schema =>
          rw [Report.outcome_bind, ← listings]
          cases (readSchemas (listings rest group)).outcome <;> rfl

/-- **Whether columns are asked for together or apart makes no difference**: both discover
the same catalog, or none, or end with the same fault. -/
theorem discover_together_eq_apart
    (hanswer : ∀ call s, (executor call s).1.outcome = .ok (answer call.script))
    (hgroups : ∀ listing, answer listTables = some listing → Text.words listing ≠ [] →
      AnswersInGroups answer (Text.words listing) output group)
    (target : String) (s s' : σ) :
    ((discover target true).run executor s).1.outcome =
      ((discover target false).run executor s').1.outcome := by
  rw [outcome_discover, outcome_discover, hanswer, hanswer, ok_bind, ok_bind]
  cases hlisting : answer listTables with
  | none => rfl
  | some listing =>
      dsimp only
      split
      · rfl
      · next hnames =>
          have h := hgroups listing hlisting (by simpa using hnames)
          simp only [if_true, Bool.false_eq_true, if_false, schemasTogether_groups hanswer h,
            schemasApart_groups hanswer target h.apart h.spaced]

end

/-- Two tables, of which one is listed twice and has a default with brackets. -/
theorem discover_bracketed_default :
    let info : String → String := fun name =>
      if name = "log" then "\n[]\n"
      else " [\x7b\"cid\":0,\"name\":\"a\",\"dflt_value\":\"[\\\"\"\x7d]"
    let answer : String → Option String := fun script =>
      if script = listTables then some "notes log\nnotes"
      else (["notes", "log"].find? (tableInfoSql · = script)).elim
        (some (info "notes" ++ info "log" ++ info "notes")) (some ∘ info)
    let executor : Executor Nat := fun call asked => (pure (answer call.script), asked + 1)
    ((discover "main.db" true).run executor 0).1.outcome =
      ((discover "main.db" false).run executor 0).1.outcome := by
  intro info answer executor
  have hanswer : ∀ call s, (executor call s).1.outcome = .ok (answer call.script) :=
    fun _ _ => rfl
  have hwords : Text.words "notes log\nnotes" = ["notes", "log", "notes"] := by decide
  have hspaces {cs : List Char} : cs.all Json.isSpace = true → ∀ c ∈ cs, Json.isSpace c = true :=
    List.all_eq_true.mp
  have hspaced : ∀ name ∈ ["notes", "log", "notes"],
      IsSpaced (Text.trim (info name).toList) (info name).toList := by
    intro name hname
    simp only [List.mem_cons, List.not_mem_nil, or_false] at hname
    rcases hname with rfl | rfl | rfl
    · exact ⟨by decide, [' '], [], hspaces (by decide), by simp, by decide⟩
    · exact ⟨by decide, ['\n'], ['\n'], hspaces (by decide), hspaces (by decide), by decide⟩
    · exact ⟨by decide, [' '], [], hspaces (by decide), by simp, by decide⟩
  have hgroups : ∀ listing, answer listTables = some listing → Text.words listing ≠ [] →
      AnswersInGroups answer (Text.words listing) info fun name => Text.trim (info name).toList := by
    intro listing hlisting _
    cases hlisting
    rw [hwords]
    exact ⟨by decide, hspaced, by decide⟩
  exact discover_together_eq_apart hanswer hgroups "main.db" 0 0

end Catalog

end RowShell
