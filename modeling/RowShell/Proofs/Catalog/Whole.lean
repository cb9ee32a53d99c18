/-
A catalog is discovered whole or not at all.

The columns of all tables are asked for by one script, and the shell prints one listing for
each statement of it.  Names and listings come from two texts that are split independently, so
everything rests on their order.  `discover_whole` says what discovery makes of them: there is
no catalog unless there is a schema for every name, and then each table has the schema of the
listing at its own place.  A name that is listed twice is one table, with the listing of its
last place.

Discovery makes at most two calls, neither of which may write.
-/
import RowShell.Proofs.Catalog.Discovery
import RowShell.Proofs.Keyed
import RowShell.Proofs.Schema.Failure

namespace RowShell

open Outcome

namespace Schema

/-- The text is no listing of columns, and is refused as such. -/
def Refused (text : String) : Prop := ∃ fault, ofText text = .error fault ∧ fault.isRefusal = true

theorem not_refused_of_forall₂ {texts : List String} {schemas : List Schema}
    (h : List.Forall₂ (fun text schema => ofText text = .ok schema) texts schemas) :
    ∀ text ∈ texts, ¬ Refused text := by
  induction h with
  | nil => simp
  | cons hfirst _ ih =>
      intro text hmem hrefused
      rcases List.mem_cons.mp hmem with rfl | hmem
      · obtain ⟨fault, hfault, -⟩ := hrefused
        rw [hfirst] at hfault
        cases hfault
      · exact ih text hmem hrefused

/-- A listing of one row describes one column. -/
theorem ofText_of_row {text : String} {row : ColumnRow} {column : Column}
    (hrow : (Json.read .strict text).toOption.bind ColumnRow.listing? = some [row])
    (hcolumn : row.column = .ok column) : ofText text = .ok (.ofColumns [column]) := by
  obtain ⟨value, hvalue, hrows⟩ := Option.bind_eq_some_iff.mp hrow
  have hread : Json.read .strict text = .ok value := by
    cases hjson : Json.read .strict text with
    | error refusal => simp [hjson, Except.toOption] at hvalue
    | ok other => simpa [hjson, Except.toOption] using hvalue
  rw [ofText, hread]
  dsimp only
  rw [ofListing, hrows]
  dsimp only
  rw [ofRows, List.mergeSort_singleton, List.mapM_cons, hcolumn]
  rfl

end Schema

namespace Catalog

open Schema (Refused)

/-! ### Listings in order -/

theorem outcome_readSchema (name listing : String) :
    (readSchema name listing).outcome = match Schema.ofText listing with
      | .ok schema => .ok (some schema)
      | .error fault => if fault.isRefusal then .ok none else .error fault := by
  rw [readSchema, Report.outcome_afterRefusal, Report.outcome_bind, Report.outcome_liftM]
  cases Schema.ofText listing <;> rfl

theorem outcome_readSchemas_cons (name listing : String) (rest : List (String × String)) :
    (readSchemas ((name, listing) :: rest)).outcome = match Schema.ofText listing with
      | .ok schema => (readSchemas rest).outcome.map (Option.map (schema :: ·))
      | .error fault => if fault.isRefusal then .ok none else .error fault := by
  rw [readSchemas, Report.outcome_bind, outcome_readSchema]
  cases Schema.ofText listing with
  | ok schema =>
      show (readSchemas rest >>= fun schemas? => pure (schemas?.map (schema :: ·))).outcome = _
      rw [Report.outcome_bind]
      cases (readSchemas rest).outcome <;> rfl
  | error fault =>
      by_cases hrefusal : fault.isRefusal = true <;> simp [hrefusal]

/-- **Schemas are read from listings if every listing has one**, and they are in the same
order. -/
theorem readSchemas_eq_some {listings : List (String × String)} {schemas : List Schema} :
    (readSchemas listings).outcome = .ok (some schemas) ↔
      List.Forall₂ (fun listing schema => Schema.ofText listing = .ok schema)
        (listings.map Prod.snd) schemas := by
  induction listings generalizing schemas with
  | nil =>
      rw [List.map_nil, List.forall₂_nil_left_iff]
      constructor
      · intro h
        cases h
        rfl
      · intro h
        rw [h]
        rfl
  | cons entry rest ih =>
      obtain ⟨name, listing⟩ := entry
      rw [outcome_readSchemas_cons, List.map_cons, List.forall₂_cons_left_iff]
      constructor
      · intro h
        cases hlisting : Schema.ofText listing with
        | ok schema =>
            rw [hlisting] at h
            obtain ⟨schemas?, hrest, heq⟩ := map_eq_ok.mp h
            cases schemas? with
            | none => cases heq
            | some others =>
                cases heq
                exact ⟨schema, others, rfl, ih.mp hrest, rfl⟩
        | error fault =>
            rw [hlisting] at h
            by_cases hrefusal : fault.isRefusal = true <;> simp [hrefusal] at h
      · intro h
        obtain ⟨schema, others, hlisting, hrest, rfl⟩ := h
        rw [hlisting]
        exact map_eq_ok.mpr ⟨some others, ih.mpr hrest, rfl⟩

/-- If there are no schemas, some listing is refused. -/
theorem exists_refused_of_readSchemas {listings : List (String × String)}
    (h : (readSchemas listings).outcome = .ok none) :
    ∃ listing ∈ listings.map Prod.snd, Refused listing := by
  induction listings with
  | nil => cases h
  | cons entry rest ih =>
      obtain ⟨name, listing⟩ := entry
      rw [outcome_readSchemas_cons] at h
      cases hlisting : Schema.ofText listing with
      | ok schema =>
          rw [hlisting] at h
          obtain ⟨schemas?, hrest, heq⟩ := map_eq_ok.mp h
          cases schemas? with
          | some others => cases heq
          | none =>
              obtain ⟨other, hmem, hrefused⟩ := ih hrest
              exact ⟨other, List.mem_cons_of_mem _ hmem, hrefused⟩
      | error fault =>
          rw [hlisting] at h
          by_cases hrefusal : fault.isRefusal = true
          · exact ⟨listing, by simp, fault, hlisting, hrefusal⟩
          · simp [hrefusal] at h

/-! ### The tables of a catalog -/

/-- The catalog has the listed names, each once, and under each name the table with the schema
that the listing at the last place of the name describes. -/
structure IsWhole (target : String) (names listings : List String) (catalog : Catalog) : Prop where
  target_eq : catalog.target = target
  names_eq : catalog.names = names.eraseDups
  table : ∀ name ∈ names, ∃ i listing schema, IsLastAt names name i ∧
    listings[i]? = some listing ∧ Schema.ofText listing = .ok schema ∧
      catalog.find? name = some ⟨target, name, schema⟩

theorem isWhole_ofSchemas {names listings : List String} {schemas : List Schema} (target : String)
    (hlength : names.length = listings.length)
    (h : List.Forall₂ (fun listing schema => Schema.ofText listing = .ok schema) listings schemas) :
    IsWhole target names listings (ofSchemas target names schemas) := by
  have hschemas : names.length = schemas.length := hlength.trans h.length_eq
  have hnames : ((names.zip schemas).map fun entry => (⟨target, entry.1, entry.2⟩ : Table)).map
      Table.name = names := by
    rw [List.map_map]
    exact List.map_fst_zip hschemas.le
  refine ⟨rfl, ?_, ?_⟩
  · show (Keyed.ofList Table.name ((names.zip schemas).map fun entry =>
      (⟨target, entry.1, entry.2⟩ : Table))).map Table.name = _
    rw [Keyed.map_ofList, hnames]
  · intro name hname
    obtain ⟨i, hi⟩ := exists_isLastAt hname
    obtain ⟨hlt, hget⟩ := List.getElem?_eq_some_iff.mp hi.1
    have hlisting : i < listings.length := hlength ▸ hlt
    have hschema : i < schemas.length := hschemas ▸ hlt
    refine ⟨i, listings[i], schemas[i], hi, List.getElem?_eq_getElem hlisting,
      List.Forall₂.get h hlisting hschema, ?_⟩
    show Keyed.find? Table.name name (Keyed.ofList Table.name ((names.zip schemas).map fun entry =>
      (⟨target, entry.1, entry.2⟩ : Table))) = _
    rw [Keyed.find?_ofList Table.name (by rwa [hnames])]
    simp [hlt, hschema, hget]

/-! ### The calls of discovery -/

section

variable {σ : Type} (executor : Executor σ) (target : String) (s : σ)

/-- The call for the names of all tables. -/
def listCall (target : String) : Call := ⟨target, listTables, .read⟩

theorem calls_schemasTogether (names : List String) :
    (schemasTogether target names).calls executor s = [columnsCall target names] := by
  rw [schemasTogether, Dialogue.calls_bind, Dialogue.calls_call, Dialogue.outcome_run_call,
    columnsCall]
  rcases (executor _ s).1.outcome with fault | (- | output)
  · rfl
  · rfl
  · dsimp only
    split <;> rfl

theorem calls_discover :
    (discover target true).calls executor s =
      listCall target :: match (executor (listCall target) s).1.outcome with
        | .ok (some listing) =>
          if (Text.words listing).isEmpty then [] else [columnsCall target (Text.words listing)]
        | _ => [] := by
  rw [discover, Dialogue.calls_bind, Dialogue.calls_call, Dialogue.outcome_run_call,
    Dialogue.state_run_call, listCall]
  rcases (executor _ s).1.outcome with fault | (- | listing)
  · rfl
  · rfl
  · dsimp only
    split
    · rfl
    · simp only [if_true]
      rw [Dialogue.calls_bind, calls_schemasTogether]
      rcases (Dialogue.run executor _ _).1.outcome with fault | (- | schemas)
      · rfl
      · rfl
      · rfl

/-- What the shell prints for the columns of all tables does not give a schema for each. -/
def Unusable (names : List String) : Option String → Prop
  | none => True
  | some output => (Chunks.ofText output).length ≠ names.length ∨
      ∃ listing ∈ Chunks.ofText output, Refused listing

variable {executor s target} {names : List String}

/-- If there are no schemas, it is because of the output. -/
theorem unusable_of_schemasTogether
    (h : ((schemasTogether target names).run executor s).1.outcome = .ok none) :
    ∃ output?, (executor (columnsCall target names) s).1.outcome = .ok output? ∧
      Unusable names output? := by
  rw [outcome_schemasTogether] at h
  obtain ⟨output?, houtput, h⟩ := bind_eq_ok.mp h
  refine ⟨output?, houtput, ?_⟩
  cases output? with
  | none => trivial
  | some output =>
      dsimp only at h
      by_cases hlength : (Chunks.ofText output).length = names.length
      · rw [if_pos hlength] at h
        have hrefused := exists_refused_of_readSchemas h
        rw [List.map_snd_zip hlength.le] at hrefused
        exact .inr hrefused
      · exact .inl hlength

/-- If there are schemas, the output has one for each table, in order. -/
theorem isWhole_of_schemasTogether {schemas : List Schema}
    (h : ((schemasTogether target names).run executor s).1.outcome = .ok (some schemas)) :
    ∃ output, (executor (columnsCall target names) s).1.outcome = .ok (some output) ∧
      ¬ Unusable names (some output) ∧
      IsWhole target names (Chunks.ofText output) (ofSchemas target names schemas) := by
  rw [outcome_schemasTogether] at h
  obtain ⟨output?, houtput, h⟩ := bind_eq_ok.mp h
  cases output? with
  | none => cases h
  | some output =>
      dsimp only at h
      by_cases hlength : (Chunks.ofText output).length = names.length
      · rw [if_pos hlength] at h
        have hread := readSchemas_eq_some.mp h
        rw [List.map_snd_zip hlength.le] at hread
        refine ⟨output, houtput, ?_, isWhole_ofSchemas target hlength.symm hread⟩
        intro hunusable
        rcases hunusable with hne | ⟨listing, hmem, hrefused⟩
        · exact hne hlength
        · exact Schema.not_refused_of_forall₂ hread listing hmem hrefused
      · rw [if_neg hlength] at h
        cases h

/-- What is found in a database by the answers of the shell: nothing if the tables cannot be
listed, an empty catalog if there are none, nothing if the columns are not those of all tables,
and otherwise a catalog of all tables. -/
def Finds (executor : Executor σ) (target : String) (s : σ) (asked : List Call)
    (found : Option Catalog) : Prop :=
  ∃ listing?, (executor (listCall target) s).1.outcome = .ok listing? ∧
    match listing? with
    | none => asked = [listCall target] ∧ found = none
    | some listing =>
      if Text.words listing = [] then
        asked = [listCall target] ∧
          ∃ catalog, found = some catalog ∧ catalog.target = target ∧ catalog.tables = []
      else
        asked = [listCall target, columnsCall target (Text.words listing)] ∧
          ∃ output?, (executor (columnsCall target (Text.words listing))
              (executor (listCall target) s).2).1.outcome = .ok output? ∧
            (found = none ↔ Unusable (Text.words listing) output?) ∧
            ∀ catalog, found = some catalog → ∃ output, output? = some output ∧
              IsWhole target (Text.words listing) (Chunks.ofText output) catalog

theorem finds_of_discover {found : Option Catalog}
    (h : ((discover target true).run executor s).1.outcome = .ok found) :
    Finds executor target s ((discover target true).calls executor s) found := by
  rw [outcome_discover] at h
  obtain ⟨listing?, hlisting, h⟩ := bind_eq_ok.mp h
  refine ⟨listing?, hlisting, ?_⟩
  rw [calls_discover, listCall, hlisting]
  cases listing? with
  | none =>
      cases h
      exact ⟨rfl, rfl⟩
  | some listing =>
      dsimp only at h ⊢
      by_cases hnames : Text.words listing = []
      · rw [if_pos (by simpa using hnames)] at h ⊢
        cases h
        rw [if_pos (by simp [hnames])]
        exact ⟨rfl, _, rfl, rfl, rfl⟩
      · have hempty : ¬ (Text.words listing).isEmpty = true := by simpa using hnames
        rw [if_neg hempty, if_pos rfl] at h
        rw [if_neg hnames, if_neg hempty]
        obtain ⟨schemas?, hschemas, hfound⟩ := map_eq_ok.mp h
        refine ⟨rfl, ?_⟩
        cases schemas? with
        | none =>
            cases hfound
            obtain ⟨output?, houtput, hunusable⟩ := unusable_of_schemasTogether hschemas
            exact ⟨output?, houtput, iff_of_true rfl hunusable, nofun⟩
        | some schemas =>
            cases hfound
            obtain ⟨output, houtput, husable, hwhole⟩ := isWhole_of_schemasTogether hschemas
            refine ⟨some output, houtput, iff_of_false nofun husable, ?_⟩
            intro catalog hcatalog
            cases hcatalog
            exact ⟨output, rfl, hwhole⟩

theorem readOnly_of_discover :
    ∀ call ∈ (discover target true).calls executor s, "-readonly" ∈ call.mode.flags := by
  intro call hmem
  rw [calls_discover] at hmem
  rcases List.mem_cons.mp hmem with rfl | hmem
  · simp [listCall, Mode.read, Mode.flags]
  · split at hmem
    · split at hmem
      · cases hmem
      · rw [List.mem_singleton.mp hmem]
        simp [columnsCall, Mode.readJson, Mode.flags]
    · cases hmem

/-- **Discovery with one script finds all tables, each with its own columns, or nothing**, and
makes no call that may write.  A table holds no executor: what is asked through it later is
asked of the executor of the discovery, in the state in which that was left. -/
theorem discover_whole {found : Option Catalog}
    (h : ((discover target true).run executor s).1.outcome = .ok found) :
    let asked := (discover target true).calls executor s
    Finds executor target s asked found ∧ (∀ call ∈ asked, "-readonly" ∈ call.mode.flags) ∧
      ∀ {α : Type} (next : Option Catalog → Dialogue α),
        (discover target true >>= next).calls executor s =
          asked ++ (next found).calls executor ((discover target true).run executor s).2 := by
  refine ⟨finds_of_discover h, readOnly_of_discover, ?_⟩
  intro α next
  rw [Dialogue.calls_bind, h]

end

/-- Two tables, of which one is listed twice: it has the column that is listed last. -/
theorem discover_whole_repeated :
    let listing : String → String := fun column =>
      "[\x7b\"cid\":0,\"name\":\"" ++ column ++ "\",\"type\":\"TEXT\"\x7d]"
    let r : Rehearsal := ⟨[some "notes log\nnotes",
      some (listing "id" ++ listing "line" ++ listing "title")], []⟩
    let asked := (discover "main.db" true).calls Rehearsal.executor r
    ∃ catalog, ((discover "main.db" true).run Rehearsal.executor r).1.outcome = .ok (some catalog) ∧
      catalog.tables.map (fun table => (table.name, table.schema.names)) =
        [("notes", ["title"]), ("log", ["line"])] ∧
      Finds Rehearsal.executor "main.db" r asked (some catalog) ∧
      (∀ call ∈ asked, "-readonly" ∈ call.mode.flags) ∧
      ∀ {α : Type} (next : Option Catalog → Dialogue α),
        (discover "main.db" true >>= next).calls Rehearsal.executor r = asked ++
          (next (some catalog)).calls Rehearsal.executor
            ((discover "main.db" true).run Rehearsal.executor r).2 := by
  intro listing r asked
  let schemaOf : String → Schema := fun column => .ofColumns [.ofType column "TEXT" none]
  let output := listing "id" ++ listing "line" ++ listing "title"
  have hwords : Text.words "notes log\nnotes" = ["notes", "log", "notes"] := by decide
  have hchunks : Chunks.ofText output = [listing "id", listing "line", listing "title"] := by
    decide +kernel
  have hschema : ∀ column ∈ ["id", "line", "title"],
      Schema.ofText (listing column) = .ok (schemaOf column) := by
    have hrow : ∀ column ∈ ["id", "line", "title"],
        (Json.read .strict (listing column)).toOption.bind ColumnRow.listing? =
          some [⟨0, column, "TEXT", 0, none, 0⟩] := by decide +kernel
    have hcolumn : ∀ column ∈ ["id", "line", "title"],
        ColumnRow.column ⟨0, column, "TEXT", 0, none, 0⟩ = .ok (.ofType column "TEXT" none) := by
      decide +kernel
    exact fun column hmem => Schema.ofText_of_row (hrow column hmem) (hcolumn column hmem)
  have hschemas : (readSchemas (["notes", "log", "notes"].zip
      [listing "id", listing "line", listing "title"])).outcome =
        .ok (some [schemaOf "id", schemaOf "line", schemaOf "title"]) :=
    readSchemas_eq_some.mpr (.cons (hschema _ (by decide)) (.cons (hschema _ (by decide))
      (.cons (hschema _ (by decide)) .nil)))
  have hlist : (Rehearsal.executor ⟨"main.db", listTables, .read⟩ r).1.outcome =
      .ok (some "notes log\nnotes") := rfl
  have hcolumns : (Rehearsal.executor (columnsCall "main.db" ["notes", "log", "notes"])
      (Rehearsal.executor ⟨"main.db", listTables, .read⟩ r).2).1.outcome = .ok (some output) := rfl
  have hfound : ((discover "main.db" true).run Rehearsal.executor r).1.outcome =
      .ok (some (ofSchemas "main.db" ["notes", "log", "notes"]
        [schemaOf "id", schemaOf "line", schemaOf "title"])) := by
    rw [outcome_discover, hlist, ok_bind]
    dsimp only
    rw [hwords, if_neg (by decide), if_pos rfl, outcome_schemasTogether, hcolumns, ok_bind]
    dsimp only
    rw [hchunks, if_pos (by decide), hschemas]
    rfl
  exact ⟨_, hfound, by decide +kernel, discover_whole hfound⟩

end Catalog

end RowShell
