/-
Nodes of YAML.

A node is a scalar, a list or a map, perhaps with a tag; a text has at most one node
that is in no other.  Lists and maps are written in brackets, or as a block; only the
items of a list may stand at the column of the key that they belong to.

Nodes are read off the tokens in order, and no token is looked at before those in front
of it are accepted.  So of a fault in the structure and a token that is refused, the
one that comes first counts.

An anchor names a node from its start on, so an alias may stand inside the node that it
repeats.  Such a node is unfolded once: inside of the repeated one the alias is left.
-/
import RowShell.Yaml.Token

namespace RowShell.Yaml

inductive Node where
  | scalar (tag : Option Tag) (s : Scalar)
  | list (tag : Option Tag) (items : List Node)
  | map (tag : Option Tag) (entries : List (Node × Node))
  /-- A list or a map around this place, by its anchor. -/
  | around (anchor : List Char) (isMap : Bool)

namespace Node

/-- The node where nothing is written. -/
def empty : Node := .scalar none (.plain [])

mutual

/-- A node with another one in the places that repeat it. -/
def unfold (name : List Char) (whole : Node) : Node → Node
  | .scalar tag s => .scalar tag s
  | .list tag items => .list tag (unfoldItems name whole items)
  | .map tag entries => .map tag (unfoldEntries name whole entries)
  | .around anchor isMap => if anchor == name then whole else .around anchor isMap

def unfoldItems (name : List Char) (whole : Node) : List Node → List Node
  | [] => []
  | item :: rest => unfold name whole item :: unfoldItems name whole rest

def unfoldEntries (name : List Char) (whole : Node) : List (Node × Node) → List (Node × Node)
  | [] => []
  | (key, node) :: rest =>
    (unfold name whole key, unfold name whole node) :: unfoldEntries name whole rest

end

/-- What is left to read, and what it may refer to. -/
structure Reading where
  tokens : List Token
  /-- The nodes with anchors, the last one first. -/
  anchors : List (List Char × Node)
  /-- The handles that directives declare. -/
  handles : List (List Char)

/-- A part of the structure, read off the tokens. -/
abbrev Reader := StateT Reading (Except Refusal)

/-- The next token. -/
def peek : Reader Token := do
  match (← get).tokens with
  | [] => throw .malformed
  | .refused r :: _ => throw r
  | token :: _ => return token

/-- Passes over the next token. -/
def drop : Reader Unit := modify fun reading => { reading with tokens := reading.tokens.drop 1 }

/-! ### Properties -/

/-- The tag that is written; none asks for the same as an exclamation mark alone. -/
def tag (text : TagText) : Reader (Option Tag) := do
  match text with
  | .bare => return none
  | .whole text => return if text == ['!'] then none else some .unknown
  | .short handle suffix =>
    if (← get).handles.contains handle || handle == ['!'] then return some .unknown
    else if handle == ['!', '!'] then return some (.core (String.ofList suffix))
    else throw .malformed

/-- What stands before a node. -/
structure Properties where
  anchor : Option (List Char)
  /-- The tag, if one is written. -/
  tag : Option (Option Tag)

/-- Reads the anchor and the tag before a node, in any order. -/
def properties : Reader Properties := do
  match ← peek with
  | .anchor name =>
    drop
    match ← peek with
    | .tag text =>
      drop
      return ⟨some name, some (← tag text)⟩
    | _ => return ⟨some name, none⟩
  | .tag text =>
    drop
    match ← peek with
    | .anchor name =>
      drop
      return ⟨some name, some (← tag text)⟩
    | _ => return ⟨none, some (← tag text)⟩
  | _ => return ⟨none, none⟩

/-- Names a node by an anchor. -/
def name (anchor : List Char) (node : Node) : Reader Unit :=
  modify fun reading => { reading with anchors := (anchor, node) :: reading.anchors }

/-- The node that an alias repeats. -/
def anchored (name : List Char) : Reader Node := do
  match (← get).anchors.find? (·.1 == name) with
  | some (_, node) => return node
  | none => throw .malformed

/-- Refuses an anchor that names a node already. -/
def unused (anchor : Option (List Char)) : Reader Unit := do
  if (← get).anchors.any fun entry => some entry.1 == anchor then throw .malformed

/-- A scalar with the properties before it.  An exclamation mark alone makes it plain. -/
def scalarNode (properties : Properties) (s : Scalar) : Reader Node := do
  let node := match properties.tag with
    | none => .scalar none s
    | some none => .scalar none (.plain s.text)
    | some tag => .scalar tag s
  unused properties.anchor
  properties.anchor.forM fun anchor => name anchor node
  return node

/-! ### Structure -/

/-- Where a node stands. -/
inductive Place where
  /-- Inside brackets. -/
  | flow
  /-- In a block, as an item, or in nothing. -/
  | block
  /-- In a block, as a key or a value: a list there may have its items at the column of
  the keys. -/
  | entry

/-- A token that ends an item of a list in brackets. -/
def endsFlowItem : Token → Bool
  | .comma | .listEnd => true
  | _ => false

/-- A token that ends an entry of a map in brackets. -/
def endsFlowEntry : Token → Bool
  | .comma | .mapEnd => true
  | _ => false

/-- A token that ends an item of a list in a block. -/
def endsItem : Token → Bool
  | .item | .blockEnd => true
  | _ => false

/-- A token that ends an entry of a map in a block. -/
def endsEntry : Token → Bool
  | .key | .value | .blockEnd => true
  | _ => false

/-- A token that ends an item of a list at the column of the keys of a map. -/
def endsBareItem (token : Token) : Bool := endsItem token || endsEntry token

/-- A token that ends a key, in what ends its entry or by its colon. -/
def endsKey (ends : Token → Bool) : Token → Bool
  | .value => true
  | token => ends token

/-- Reads a node, if one stands before the end of what it stands in. -/
def unlessEnded (ends : Token → Bool) (read : Reader Node) : Reader Node := do
  if ends (← peek) then return empty else read

/-- Passes over the comma before an entry, unless it is the first one. -/
def separator (isFirst : Bool) : Reader Unit := do
  if !isFirst then
    match ← peek with
    | .comma => drop
    | _ => throw .malformed

/-- Reads the members of a list or a map, inside of which its anchor may be used. -/
def collection {α : Type} (anchor : Option (List Char)) (isMap : Bool) (build : List α → Node)
    (members : Reader (List α)) : Reader Node := do
  unused anchor
  match anchor with
  | none => return build (← members)
  | some anchor =>
    name anchor (.around anchor isMap)
    let node := build (← members)
    let known := (← get).anchors.filter (·.1 != anchor)
    let known := known.map fun (name, other) => (name, unfold anchor node other)
    let whole := unfold anchor node node
    modify fun reading => { reading with anchors := (anchor, whole) :: known }
    return whole

mutual

/-- Reads a node. -/
def read : Nat → Place → Reader Node
  | 0, _ => throw .malformed
  | fuel + 1, place => do
    match ← peek with
    | .alias name =>
      drop
      anchored name
    | _ =>
      let properties ← properties
      let list := collection properties.anchor false (.list properties.tag.join)
      let map := collection properties.anchor true (.map properties.tag.join)
      match ← peek, place with
      | .scalar s, _ =>
        drop
        scalarNode properties s
      | .listStart, _ => list (drop *> flowItems fuel true)
      | .mapStart, _ => map (drop *> flowEntries fuel true)
      | .item, .entry => list (bareItems fuel)
      | .blockList, .block | .blockList, .entry => list (drop *> items fuel)
      | .blockMap, .block | .blockMap, .entry => map (drop *> entries fuel)
      | _, _ =>
        if properties.anchor.isNone && properties.tag.isNone then throw .malformed
        else scalarNode properties (.plain [])

/-- Reads the items of a list in brackets up to its end; a key with a value is a map of
its own. -/
def flowItems : Nat → Bool → Reader (List Node)
  | 0, _ => throw .malformed
  | fuel + 1, isFirst => do
    match ← peek with
    | .listEnd => drop; return []
    | _ =>
      separator isFirst
      match ← peek with
      | .listEnd => drop; return []
      | .key =>
        let item := .map none [← entry fuel .flow endsFlowItem]
        return item :: (← flowItems fuel false)
      | _ =>
        let item ← read fuel .flow
        return item :: (← flowItems fuel false)

/-- Reads the entries of a map in brackets up to its end; a key without a colon has the
value null. -/
def flowEntries : Nat → Bool → Reader (List (Node × Node))
  | 0, _ => throw .malformed
  | fuel + 1, isFirst => do
    match ← peek with
    | .mapEnd => drop; return []
    | _ =>
      separator isFirst
      match ← peek with
      | .mapEnd => drop; return []
      | .key =>
        let read ← entry fuel .flow endsFlowEntry
        return read :: (← flowEntries fuel false)
      | _ =>
        let key ← read fuel .flow
        return (key, empty) :: (← flowEntries fuel false)

/-- Reads a key and its value; either may be missing. -/
def entry : Nat → Place → (Token → Bool) → Reader (Node × Node)
  | 0, _, _ => throw .malformed
  | fuel + 1, place, ends => do
    drop
    let key ← unlessEnded (endsKey ends) (read fuel place)
    match ← peek with
    | .value =>
      drop
      return (key, ← unlessEnded ends (read fuel place))
    | _ => return (key, empty)

/-- Reads the items of a list in a block up to its end. -/
def items : Nat → Reader (List Node)
  | 0 => throw .malformed
  | fuel + 1 => do
    match ← peek with
    | .item =>
      drop
      let item ← unlessEnded endsItem (read fuel .block)
      return item :: (← items fuel)
    | .blockEnd => drop; return []
    | _ => throw .malformed

/-- Reads the items of a list that stand at the column of the keys of a map. -/
def bareItems : Nat → Reader (List Node)
  | 0 => throw .malformed
  | fuel + 1 => do
    match ← peek with
    | .item =>
      drop
      let item ← unlessEnded endsBareItem (read fuel .block)
      return item :: (← bareItems fuel)
    | _ => return []

/-- Reads the entries of a map in a block up to its end. -/
def entries : Nat → Reader (List (Node × Node))
  | 0 => throw .malformed
  | fuel + 1 => do
    match ← peek with
    | .key =>
      let read ← entry fuel .entry endsEntry
      return read :: (← entries fuel)
    | .blockEnd => drop; return []
    | _ => throw .malformed

end

/-! ### Documents -/

/-- Reads the directives before a document.  There is at most one version, which is of
the first generation, and each handle is declared once. -/
def directives : Nat → Bool → Reader Unit
  | 0, _ => throw .malformed
  | fuel + 1, hasVersion => do
    match ← peek with
    | .directive (.version major) =>
      drop
      if hasVersion || major != 1 then throw .malformed else directives fuel true
    | .directive (.handle name) =>
      drop
      if (← get).handles.contains name then throw .malformed
      else
        modify fun reading => { reading with handles := name :: reading.handles }
        directives fuel hasVersion
    | .directive .other =>
      drop
      directives fuel hasVersion
    | _ => return

/-- Reads the start of a document with the directives before it. -/
def documentStart (fuel : Nat) : Reader Unit := do
  modify fun reading => { reading with handles := [] }
  directives fuel false
  match ← peek with
  | .documentStart => drop
  | _ => throw .malformed

/-- Passes over the ends of a document. -/
def documentEnds : Nat → Reader Unit
  | 0 => throw .malformed
  | fuel + 1 => do
    match ← peek with
    | .documentEnd =>
      drop
      documentEnds fuel
    | _ => return

/-- A token that ends a document. -/
def endsDocument : Token → Bool
  | .directive _ | .documentStart | .documentEnd | .textEnd => true
  | _ => false

/-- Reads the node of a text, which has one document. -/
def document (fuel : Nat) : Reader Node := do
  let node ← match ← peek with
    | .textEnd => pure empty
    | .directive _ | .documentStart =>
      documentStart fuel
      unlessEnded endsDocument (read fuel .block)
    | _ => read fuel .block
  documentEnds fuel
  match ← peek with
  | .textEnd => return node
  | _ =>
    documentStart fuel
    throw .malformed

/-- The node of a list of tokens.  At most three steps are taken inside each other before
a token is passed over. -/
def ofTokens (tokens : List Token) : Except Refusal Node :=
  ((document (4 * tokens.length + 4)).run ⟨tokens, [], []⟩).map (·.1)

/-! ### Texts -/

/-- A character that a text may hold. -/
def isAllowed (c : Char) : Bool :=
  let n := c.toNat
  n == 0x09 || n == 0x0a || n == 0x0d || (0x20 ≤ n && n ≤ 0x7e) || n == 0x85 ||
    (0xa0 ≤ n && n ≤ 0xfffd) || 0x10000 ≤ n

/-- A text with every line ended by a line feed, unless by a separator of its own. -/
def withLineFeeds : List Char → List Char
  | [] => []
  | '\r' :: '\n' :: rest => '\n' :: withLineFeeds rest
  | '\r' :: rest => '\n' :: withLineFeeds rest
  | '\u0085' :: rest => '\n' :: withLineFeeds rest
  | c :: rest => c :: withLineFeeds rest

/-- A text without a byte order mark at its front. -/
def withoutMark : List Char → List Char
  | '\ufeff' :: rest => rest
  | cs => cs

/-- The node of a list of characters that are allowed. -/
def ofChars (cs : List Char) : Except Refusal Node := ofTokens (Token.ofText (withoutMark cs))

/-- How many characters are looked at in one portion. -/
def portion : Nat := 4096

/-- The length of what is read before the portion with a character: the first two
portions are taken together. -/
def readBefore (index : Nat) : Nat :=
  if index < 2 * portion then 0 else index - index % portion

/-- Reads the node of a text.  A text is read in portions, and a portion with a character
that is not allowed is not read; so such a text is refused for that character, unless
what comes before the portion is refused for a reason of its own. -/
def ofText (s : String) : Except Refusal Node :=
  let cs := withLineFeeds s.toList
  match cs.findIdx? fun c => !isAllowed c with
  | none => ofChars cs
  | some index =>
    match ofChars (cs.take (readBefore index)) with
    | .ok _ => .error .malformed
    | .error r => .error r

end Node

end RowShell.Yaml
