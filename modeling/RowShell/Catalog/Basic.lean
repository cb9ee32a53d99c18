/-
Catalogs.

A catalog is the tables of a database with their schemas, each name once in the order
in which the shell lists them.  It is discovered with the list of tables and then one
listing of the columns of all tables, or one for each of them.  A catalog is discovered
whole or not at all.
-/
import RowShell.Catalog.Chunks
import RowShell.Table

namespace RowShell

structure Catalog where
  target : String
  tables : List Table
  distinct : (tables.map Table.name).Nodup

namespace Catalog

/-- The catalog of tables, each name once: at its first place, with its last table. -/
def ofTables (target : String) (tables : List Table) : Catalog :=
  ⟨target, Keyed.ofList Table.name tables, Keyed.nodup_ofList Table.name tables⟩

def names (catalog : Catalog) : List String := catalog.tables.map Table.name

/-- The table with a name. -/
def find? (catalog : Catalog) (name : String) : Option Table :=
  Keyed.find? Table.name name catalog.tables

/-- The table with a name, or the fault that there is none. -/
def table (catalog : Catalog) (name : String) : Except Fault Table :=
  match catalog.find? name with
  | some table => .ok table
  | none => .error .unknownTable

/-- A catalog as it is shown. -/
def inspect (catalog : Catalog) : String :=
  "Catalog(" ++ Text.inspect catalog.target ++ ", tables=[" ++
    ", ".intercalate (catalog.names.map Text.inspect) ++ "])"

/-! ### Discovery -/

/-- The script that lists the tables. -/
def listTables : String := ".tables"

/-- The statement that lists the columns of a table. -/
def tableInfoSql (name : String) : String := "pragma table_info(" ++ name ++ ");"

/-- Logs an error, and answers with nothing. -/
def fail {α : Type} (text : String) : Report (Option α) := do
  Report.entry .error text
  return none

/-- Reads the column listing of a table. -/
def readSchema (name listing : String) : Report (Option Schema) :=
  Report.afterRefusal (do return some (← Schema.ofText listing))
    fun fault => fail ("Table " ++ name ++ ": " ++ fault.message)

/-- Reads the column listings of tables in order, up to the first that is refused. -/
def readSchemas : List (String × String) → Report (Option (List Schema))
  | [] => return some []
  | (name, listing) :: rest => do
    match ← readSchema name listing with
    | none => return none
    | some schema => return (← readSchemas rest).map (schema :: ·)

/-- Asks for the columns of all tables by one script.  The listings belong to the tables
by their order. -/
def schemasTogether (target : String) (names : List String) : Dialogue (Option (List Schema)) := do
  let script := String.join (names.map tableInfoSql)
  match ← Dialogue.call ⟨target, script, .readJson⟩ with
  | none => (fail ("Could not read column information of " ++ target) : Report _)
  | some output =>
    let listings := Chunks.ofText output
    if listings.length = names.length then (readSchemas (names.zip listings) : Report _)
    else
      (fail ("Column information for " ++ toString listings.length ++ " tables, expected " ++
        toString names.length ++ " in " ++ target) : Report _)

/-- Asks for the columns of each table by a script of its own.  No output is an empty
listing. -/
def schemasApart (target : String) : List String → Dialogue (Option (List Schema))
  | [] => return some []
  | name :: rest => do
    match ← Dialogue.call ⟨target, tableInfoSql name, .readJson⟩ with
    | none =>
      (fail ("Could not read column information of " ++ name ++ " in " ++ target) : Report _)
    | some output =>
      let listing := Text.strip output
      match ← (readSchema name (if listing.isEmpty then "[]" else listing) : Report _) with
      | none => return none
      | some schema => return (← schemasApart target rest).map (schema :: ·)

/-- Discovers the tables of a database, asking for their columns together or apart. -/
def discover (target : String) (together : Bool) : Dialogue (Option Catalog) := do
  match ← Dialogue.call ⟨target, listTables, .read⟩ with
  | none => (fail ("Could not list tables of " ++ target) : Report _)
  | some listing =>
    let names := Text.words listing
    if names.isEmpty then
      (Report.entry .info ("No tables in " ++ target) : Report _)
      return some (ofTables target [])
    else
      match ← if together then schemasTogether target names else schemasApart target names with
      | none => return none
      | some schemas =>
        let catalog := ofTables target
          ((names.zip schemas).map fun (name, schema) => ⟨target, name, schema⟩)
        (Report.entry .info
          ("Discovered " ++ toString catalog.tables.length ++ " tables in " ++ target) : Report _)
        return some catalog

end Catalog

end RowShell
