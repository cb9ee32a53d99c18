/-
Settings.

A setting is what a configuration holds under a key: a value, or a list or a map of
settings.  The maps of values have texts as keys; those of settings may have keys of any
kind, since a configuration may be written with them.  Two keys are one if they are equal
as numbers or as points in time, even if they are written in different ways.
-/
import RowShell.Keyed
import RowShell.Value.Display

namespace RowShell

inductive Setting where
  | value (v : Value)
  | list (items : List Setting)
  | map (entries : List (Value × Setting))

/-! ### Keys -/

/-- What a key is told from other keys by. -/
inductive Value.KeyClass where
  | null
  | whole (n : Int)
  | fractional (x : Binary64)
  | text (s : String)
  | date (d : Date)
  | written (t : Timestamp)
  | instant (micros : Int)
  | other
  deriving DecidableEq

/-- The class of a key: numbers by what they equal, timestamps with an offset by their
instants, and of two times that read alike both by the first. -/
def Value.keyClass : Value → Value.KeyClass
  | .null => .null
  | .bool b => .whole (if b then 1 else 0)
  | .int n => .whole n
  | .float x => x.toInt?.elim (.fractional x) .whole
  | .text s => .text s
  | .date d => .date d
  | .timestamp t => if t.offset.isSome then .instant t.instant else .written t.first
  | .bytes _ | .list _ | .map _ => .other

namespace Setting

/-- A map of entries, each key once: as it is first written, with the last setting. -/
def ofEntries (entries : List (Value × Setting)) : Setting :=
  let firstWritten (key : Value) : Value :=
    ((Keyed.find? (fun entry => entry.1.keyClass) key.keyClass entries).map Prod.fst).getD key
  .map (Keyed.ofList (fun entry => entry.1.keyClass)
    (entries.map fun (key, setting) => (firstWritten key, setting)))

/-- The entries of a map. -/
def entries? : Setting → Option (List (Value × Setting))
  | .value (.map entries) => some (entries.map fun (key, v) => (.text key, .value v))
  | .map entries => some entries
  | _ => none

/-- Whether a setting counts as true: a list or a map does unless it is empty. -/
def isTruthy : Setting → Bool
  | .value v => v.isTruthy
  | .list items => !items.isEmpty
  | .map entries => !entries.isEmpty

/-! ### Text -/

mutual

/-- The text by which a setting is shown inside another one. -/
def inspect : Setting → Except Fault String
  | .value v => v.inspect
  | .list items => do return "[" ++ ", ".intercalate (← inspectItems items) ++ "]"
  | .map entries => do return "\x7b" ++ ", ".intercalate (← inspectEntries entries) ++ "\x7d"

def inspectItems : List Setting → Except Fault (List String)
  | [] => .ok []
  | item :: rest => do
    let shown ← item.inspect
    return shown :: (← inspectItems rest)

def inspectEntries : List (Value × Setting) → Except Fault (List String)
  | [] => .ok []
  | (key, item) :: rest => do
    let shownKey ← key.inspect
    let shown ← item.inspect
    return (shownKey ++ ": " ++ shown) :: (← inspectEntries rest)

end

/-- The text that stands for a setting. -/
def display : Setting → Except Fault String
  | .value v => v.display
  | setting => setting.inspect

end Setting

end RowShell
