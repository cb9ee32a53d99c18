/-
Configuration.

A configuration has a section for the shell and a section for discovery.  It is given as
a map of maps, or as a file that holds one in YAML or JSON, by the suffix of its name.
A key that is not known is refused; the setting under a known key is taken as it is.  A
section that is missing, null or empty has the defaults.
-/
import RowShell.Path
import RowShell.Setting
import RowShell.Yaml.Settings

namespace RowShell

/-- How the shell is run. -/
structure ShellConfig where
  /-- The name of the shell, or its path. -/
  executable : Setting
  /-- How long a script waits for a locked database. -/
  timeoutMs : Setting
  /-- The encoding of scripts and of what the shell prints. -/
  encoding : Setting
  /-- How long the shell may run. -/
  processTimeout : Setting

/-- How tables are discovered. -/
structure CatalogConfig where
  /-- Whether the columns of all tables are asked for together. -/
  batchedIntrospection : Setting

structure Config where
  shell : ShellConfig
  catalog : CatalogConfig

namespace ShellConfig

def keys : List String := ["executable", "timeout_ms", "encoding", "process_timeout_seconds"]

/-- The settings that entries give, and the defaults of the others. -/
def ofEntries (entries : List (String × Setting)) : ShellConfig where
  executable := (Keyed.value? "executable" entries).getD (.value (.text "sqlite3"))
  timeoutMs := (Keyed.value? "timeout_ms" entries).getD (.value (.int 1000))
  encoding := (Keyed.value? "encoding" entries).getD (.value (.text "utf-8"))
  processTimeout := (Keyed.value? "process_timeout_seconds" entries).getD (.value .null)

/-- The line at the front of every script. -/
def timeoutStatement (config : ShellConfig) : Except Fault String := do
  return ".timeout " ++ (← config.timeoutMs.display) ++ "\n"

end ShellConfig

namespace CatalogConfig

def keys : List String := ["batched_introspection"]

def ofEntries (entries : List (String × Setting)) : CatalogConfig where
  batchedIntrospection := (Keyed.value? "batched_introspection" entries).getD (.value (.bool true))

end CatalogConfig

namespace Config

def sections : List String := ["executor", "catalog"]

/-- The keys of entries that are not among those known, in order. -/
def unknown (known : List String) (entries : List (String × Setting)) : List String :=
  ((entries.map Prod.fst).filter fun key => !known.contains key).mergeSort

/-- Entries with texts as keys; a key of another kind is no name of a setting. -/
def named (entries : List (Value × Setting)) : Except Fault (List (String × Setting)) :=
  entries.mapM fun
    | (.text key, setting) => .ok (key, setting)
    | _ => .error .notText

/-- The entries of a section, all of them known. -/
def sectionEntries (name : String) (known : List String) (entries : List (String × Setting)) :
    Except Fault (List (String × Setting)) :=
  let given := (Keyed.value? name entries).getD (.value .null)
  if !given.isTruthy then .ok []
  else match given.entries? with
    | none => .error (.config (.sectionNotAMap name))
    | some entries => do
      let entries ← named entries
      match unknown known entries with
      | [] => .ok entries
      | keys => .error (.config (.unknownKeys name keys))

/-- Reads a configuration. -/
def ofSetting (setting : Setting) : Except Fault Config :=
  match setting.entries? with
  | none => .error (.config .rootNotAMap)
  | some entries => do
    let entries ← named entries
    match unknown sections entries with
    | [] => do
      let shell ← sectionEntries "executor" ShellConfig.keys entries
      let catalog ← sectionEntries "catalog" CatalogConfig.keys entries
      return ⟨.ofEntries shell, .ofEntries catalog⟩
    | names => .error (.config (.unknownSections names))

/-- Reads a configuration that is given as a value. -/
def ofValue (v : Value) : Except Fault Config := ofSetting (.value v)

def defaults : Config := ⟨.ofEntries [], .ofEntries []⟩

/-! ### Files -/

def readYaml (path : Path) (text : String) : Except Fault Setting :=
  match Yaml.read text with
  | .ok setting => .ok setting
  | .error .malformed => .error (.config (.malformedYaml path.text))
  | .error (.scalar cause) => .error (.scalar cause)

def readJson (path : Path) (text : String) : Except Fault Setting :=
  match Json.read .lenient text with
  | .ok v => .ok (.value v)
  | .error .malformed => .error (.config (.malformedJson path.text))
  | .error .longNumeral => .error .longNumeral

/-- Whether a file holds YAML. -/
def isYaml (path : Path) : Bool := path.suffix == ".yaml" || path.suffix == ".yml"

/-- Reads the configuration in a file, given what the file holds if it exists.  Whatever
counts as false stands for a map without entries. -/
def ofFile (path : Path) (contents : Option String) : Except Fault Config :=
  match contents with
  | none => .error (.missingConfig path.text)
  | some text => do
    let data ← if isYaml path then readYaml path text else readJson path text
    ofSetting (if data.isTruthy then data else .map [])

end Config

end RowShell
