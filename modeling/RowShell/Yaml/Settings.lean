/-
The setting of a YAML text.

The nodes of a text are read as settings level by level, so of two that are refused the
one nearer to the root counts, and on one level the first.  A refusal therefore carries
its level, counted from the node that is read.

The key `<<` of a map stands for the entries of other maps: they come before the map's
own, which replace them.
-/
import RowShell.Setting
import RowShell.Yaml.Node
import RowShell.Yaml.Tagged

namespace RowShell.Yaml

/-- What a node is read as, or the refusal with its level. -/
abbrev Leveled (α : Type) := Except (Nat × Refusal) α

namespace Leveled

/-- Both of two results; of two refusals the one on the higher level, or else the first. -/
def pair {α β : Type} : Leveled α → Leveled β → Leveled (α × β)
  | .ok a, .ok b => .ok (a, b)
  | .ok _, .error f => .error f
  | .error e, .ok _ => .error e
  | .error e, .error f => .error (if f.1 < e.1 then f else e)

/-- A result one level further down. -/
def below {α : Type} (r : Leveled α) : Leveled α := r.mapError fun (level, e) => (level + 1, e)

/-- A result on the level that is read. -/
def here {α : Type} (r : Except Refusal α) : Leveled α := r.mapError ((0, ·))

/-- A refusal one level further down, where members are read. -/
def noMembers {α : Type} : Leveled α := .error (1, .malformed)

end Leveled

namespace Node

/-! ### Tags -/

/-- The value of a scalar.  A list or a map is looked for in it by its members. -/
def scalarValue (tag : Option Tag) (s : Scalar) : Leveled Value :=
  match tag, s with
  | none, .plain text => .here (Plain.value text)
  | none, .literal text => .here (.ok (.text (String.ofList text)))
  | some (.core "seq"), _ | some (.core "map"), _ => .noMembers
  | some (.core kind), s => .here (Tagged.value kind s.text)
  | some .unknown, _ => .here (.error .malformed)

/-- Whether a key stands for what its map is where a scalar is asked for. -/
def isDefault : Node → Bool
  | .scalar none (.plain text) => Plain.line text == ['=']
  | .scalar tag _ => tag == some (.core "value")
  | _ => false

mutual

/-- The text of a node as a scalar: its own, or that under the key `=` of a map. -/
def scalarText? : Node → Option (List Char)
  | .scalar _ s => some s.text
  | .map _ entries => defaultText? entries
  | _ => none

def defaultText? : List (Node × Node) → Option (List Char)
  | [] => none
  | (key, node) :: rest => if key.isDefault then scalarText? node else defaultText? rest

end

/-- The value of a list or a map with the tag of a scalar. -/
def composite (kind : String) (node : Node) : Except Refusal Value :=
  match node.scalarText? with
  | none => .error .malformed
  | some text =>
    if kind == "timestamp" then .error (.scalar .composite) else Tagged.value kind text

/-- The value of a key, which has to be a scalar. -/
def keyValue : Node → Except Refusal Value
  | .scalar tag s =>
    if isDefault (.scalar tag s) then .ok (.text (String.ofList s.text))
    else (scalarValue tag s).mapError (·.2)
  | .list (some (.core kind)) items => composite kind (.list none items)
  | .map (some (.core kind)) entries => composite kind (.map none entries)
  | _ => .error .malformed

/-- Whether a key stands for the entries of other maps. -/
def isMerge : Node → Bool
  | .scalar none (.plain text) => Plain.line text == ['<', '<']
  | .scalar tag _ => tag == some (.core "merge")
  | _ => false

/-- The setting of a list or a map: its members by the tag of its kind or without one. -/
def byTag (kind other : String) (tag : Option Tag) (node : Node) (members : Leveled Setting) :
    Leveled Setting :=
  match tag with
  | none => members
  | some .unknown => .here (.error .malformed)
  | some (.core given) =>
    if given == kind then members
    else if given == other then .noMembers
    else (Leveled.here (composite given node)).map .value

/-! ### Maps within maps -/

mutual

/-- Whether the entries of a node can be put into a map: it is a map, or a list of maps. -/
def canMerge : Node → Bool
  | .map _ entries => mergesMaps entries
  | .list _ items => areMaps items
  | .around _ _ => true
  | .scalar _ _ => false

/-- Whether every key `<<` of a map is given what can be put into it. -/
def mergesMaps : List (Node × Node) → Bool
  | [] => true
  | (key, node) :: rest => (!key.isMerge || node.canMerge) && mergesMaps rest

def areMaps : List Node → Bool
  | [] => true
  | .map _ entries :: rest => mergesMaps entries && areMaps rest
  | .around _ true :: rest => areMaps rest
  | _ :: _ => false

end

/-! ### Settings -/

mutual

/-- The setting of a node. -/
def setting : Node → Leveled Setting
  | .scalar tag s => (scalarValue tag s).map .value
  | .list tag items =>
    byTag "seq" "map" tag (.list tag items) ((itemSettings items).below.map .list)
  | .map tag entries =>
    byTag "map" "seq" tag (.map tag entries) <|
      if mergesMaps entries then (allEntries entries).below.map .ofEntries
      else .noMembers
  | .around _ isMap => .ok (if isMap then .map [] else .list [])

def itemSettings : List Node → Leveled (List Setting)
  | [] => .ok []
  | item :: rest => (item.setting.pair (itemSettings rest)).map fun (s, more) => s :: more

/-- The entries of a map: those of the maps under the key `<<`, and then its own. -/
def allEntries (entries : List (Node × Node)) : Leveled (List (Value × Setting)) :=
  ((mergedEntries entries).pair (ownEntries entries)).map fun (first, more) => first ++ more

/-- The entries of a map that it has by the key `<<`. -/
def mergedEntries : List (Node × Node) → Leveled (List (Value × Setting))
  | [] => .ok []
  | (key, node) :: rest =>
    if key.isMerge then
      (node.entriesToMerge.pair (mergedEntries rest)).map fun (first, more) => first ++ more
    else mergedEntries rest

/-- The entries of a map with other keys. -/
def ownEntries : List (Node × Node) → Leveled (List (Value × Setting))
  | [] => .ok []
  | (key, node) :: rest =>
    if key.isMerge then ownEntries rest
    else
      (((Leveled.here key.keyValue).pair node.setting).pair (ownEntries rest)).map
        fun (entry, more) => entry :: more

/-- The entries of a map, or of the maps in a list, those of the last map first. -/
def entriesToMerge : Node → Leveled (List (Value × Setting))
  | .map _ entries => allEntries entries
  | .list _ items => entriesOfMaps items
  | _ => .ok []

def entriesOfMaps : List Node → Leveled (List (Value × Setting))
  | .map _ entries :: rest =>
    ((entriesOfMaps rest).pair (allEntries entries)).map fun (later, first) => later ++ first
  | _ :: rest => entriesOfMaps rest
  | [] => .ok []

end

end Node

/-- Reads the setting of a text. -/
def read (s : String) : Except Refusal Setting := do
  (← Node.ofText s).setting.mapError (·.2)

end RowShell.Yaml
