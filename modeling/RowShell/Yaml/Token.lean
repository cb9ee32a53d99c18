/-
Tokens of YAML.

Brackets and indicators are tokens, and so are scalars, anchors, aliases, tags and
directives.  A block has a token where it begins, at the column of its first item, and
one where it ends, at a line further to the left.

A key is told by the colon after it, so what may be a key stays open until its colon
comes, its line ends or it is too long.  In a block a line at the column of its keys has
to be one.  The tokens of a text end with the end of the text, or with a refusal: it
takes the place of the first token that is not certain by then, since whoever reads the
tokens one by one is told of it there and not before.
-/
import RowShell.Yaml.Block
import RowShell.Yaml.Tag

namespace RowShell.Yaml

inductive Token where
  | directive (d : Directive)
  | documentStart
  | documentEnd
  | textEnd
  | listStart
  | listEnd
  | mapStart
  | mapEnd
  | comma
  | blockList
  | blockMap
  | blockEnd
  | item
  | key
  | value
  | alias (name : List Char)
  | anchor (name : List Char)
  | tag (t : TagText)
  | scalar (s : Scalar)
  | refused (r : Refusal)

/-- What may turn out to be a key. -/
structure PossibleKey where
  /-- How many tokens come before it. -/
  number : Nat
  /-- Whether it has to be a key. -/
  required : Bool
  start : Cursor

/-- The greatest distance between the first character of a key and its colon. -/
def maxKeyLength : Nat := 1024

/-- The tokens of a text up to a place. -/
structure Lexing where
  here : Cursor
  /-- The length of the text, which bounds the steps of every reader. -/
  length : Nat
  /-- The tokens, the last one first. -/
  tokens : List Token
  /-- The number of the tokens. -/
  count : Nat
  /-- The columns of the open blocks, the innermost first. -/
  columns : List Nat
  /-- Whether a key may begin at the next token. -/
  mayKey : Bool
  /-- What may be a key inside the innermost bracket. -/
  possible : Option PossibleKey
  /-- What may be a key inside each bracket around it, and outside of all of them. -/
  outer : List (Option PossibleKey)
  /-- Whether the text has ended. -/
  isDone : Bool

namespace Lexing

def ofText (cs : List Char) : Lexing := ⟨.ofText cs, cs.length, [], 0, [], true, none, [], false⟩

/-- Whether a bracket is open. -/
def inFlow (s : Lexing) : Bool := !s.outer.isEmpty

/-- The least column that belongs to the innermost block. -/
def least (s : Lexing) : Nat := s.columns.head?.elim 0 (· + 1)

/-- Adds a token. -/
def add (s : Lexing) (token : Token) : Lexing :=
  { s with tokens := token :: s.tokens, count := s.count + 1 }

/-- Adds the token that ends before a place. -/
def push (s : Lexing) (token : Token) (after : Cursor) : Lexing :=
  { s.add token with here := after }

/-! ### Keys -/

/-- What may be a key still is one at a later place if the place is in the same line and
not too far away. -/
def stillPossible (here : Cursor) : Option PossibleKey → Except Refusal (Option PossibleKey)
  | none => .ok none
  | some key =>
    if key.start.line == here.line && here.index ≤ key.start.index + maxKeyLength then
      .ok (some key)
    else if key.required then .error .malformed
    else .ok none

/-- Closes what cannot be a key any more. -/
def settled (s : Lexing) : Except Refusal Lexing := do
  let possible ← stillPossible s.here s.possible
  let outer ← s.outer.mapM (stillPossible s.here)
  return { s with possible, outer }

/-- Closes what may be a key inside the innermost bracket. -/
def withoutKey (s : Lexing) : Except Refusal Lexing :=
  if s.possible.any (·.required) then .error .malformed else .ok { s with possible := none }

/-- Opens the next token as a key, if it may be one. -/
def withKey (s : Lexing) : Except Refusal Lexing :=
  if s.mayKey then do
    let s ← s.withoutKey
    let required := !s.inFlow && s.columns.head? == some s.here.column
    return { s with possible := some ⟨s.count, required, s.here⟩ }
  else .ok s

/-- The tokens that are certain: those before the first that may be a key. -/
def certain (s : Lexing) : List Token :=
  let first := ((s.possible :: s.outer).reverse.findSome? id).map (·.number)
  s.tokens.reverse.take (first.getD s.count)

/-! ### Blocks -/

/-- Ends the innermost blocks, up to the first whose column goes on. -/
def ended (s : Lexing) (goesOn : Nat → Bool) : Lexing :=
  if s.inFlow then s
  else
    let ending := s.columns.takeWhile fun column => !goesOn column
    { ending.foldl (fun s _ => s.add .blockEnd) s with
      columns := s.columns.drop ending.length }

/-- Whether a block begins at a column, and the columns of the open blocks then. -/
def opened (s : Lexing) (column : Nat) : Bool × List Nat :=
  if !s.inFlow && s.columns.head?.all (· < column) then (true, column :: s.columns)
  else (false, s.columns)

/-- Begins a block at the next token, if none is open at its column. -/
def withBlock (s : Lexing) (token : Token) : Lexing :=
  let (begins, columns) := s.opened s.here.column
  if begins then { s.add token with columns } else s

/-! ### Single tokens -/

/-- The end of the text. -/
def atEnd (s : Lexing) : Except Refusal Lexing := do
  let s ← (s.ended fun _ => false).withoutKey
  return { s.push .textEnd s.here with isDone := true }

/-- A token that ends all blocks. -/
def outermost (s : Lexing) (token : Token) (after : Cursor) : Except Refusal Lexing := do
  let s ← (s.ended fun _ => false).withoutKey
  return { s.push token after with mayKey := false }

/-- An opening bracket. -/
def opening (s : Lexing) (token : Token) : Except Refusal Lexing := do
  let s ← s.withKey
  return { s.push token s.here.next with
    mayKey := true, possible := none, outer := s.possible :: s.outer }

/-- A closing bracket; one that closes nothing is refused. -/
def closing (s : Lexing) (token : Token) : Except Refusal Lexing := do
  let s ← s.withoutKey
  match s.outer with
  | [] => .error .malformed
  | possible :: outer => return { s.push token s.here.next with mayKey := false, possible, outer }

/-- A comma, which is refused outside brackets. -/
def comma (s : Lexing) : Except Refusal Lexing := do
  let s ← s.withoutKey
  if s.inFlow then return { s.push .comma s.here.next with mayKey := true }
  else .error .malformed

/-- An indicator that may begin a block: the hyphen of an item, the question mark of a
key, or a colon without a key. -/
def marked (s : Lexing) (block token : Token) (mayKey : Bool) : Except Refusal Lexing := do
  if !s.inFlow && !s.mayKey then .error .malformed
  else
    let s ← (s.withBlock block).withoutKey
    return { s.push token s.here.next with mayKey }

/-- The colon after a key.  The key is marked where it began, and so is the block that it
begins. -/
def colon (s : Lexing) : Except Refusal Lexing :=
  match s.possible with
  | some key =>
    let (begins, columns) := s.opened key.start.column
    let (since, before) := s.tokens.splitAt (s.count - key.number)
    let s := { s with tokens := before, count := key.number, columns, possible := none }
    let s := (if begins then s.add .blockMap else s).add .key
    let s := since.reverse.foldl add s
    .ok { s.push .value s.here.next with mayKey := false }
  | none => s.marked .blockMap .value !s.inFlow

/-- A token that may be a key: an alias, a scalar or what comes before a node. -/
def mayBeKey (s : Lexing) (read : Cursor → Except Refusal (Token × Cursor)) :
    Except Refusal Lexing := do
  let s ← s.withKey
  let (token, after) ← read s.here
  return { s.push token after with mayKey := false }

/-- A plain scalar with the gap after it; after a line break a key may follow. -/
def plain (s : Lexing) : Except Refusal Lexing := do
  let s ← s.withKey
  let (text, textEnd) := plainFrom s.inFlow s.least (s.length + 1) s.here
  let (_, after) := textEnd.gap (· == ' ')
  return { s.push (.scalar (.plain text)) after with mayKey := textEnd.line < after.line }

/-- A scalar that is written as a block. -/
def block (s : Lexing) : Except Refusal Lexing := do
  let s ← s.withoutKey
  let (text, after) ← Block.read (s.length + 1) s.least s.here
  return { s.push (.scalar (.literal text)) after with mayKey := true }

/-- The next token. -/
def next (s : Lexing) : Except Refusal Lexing := do
  let here := s.here.token
  let mayKey := s.mayKey || (!s.inFlow && s.here.line < here.line)
  let s ← { s with here, mayKey }.settled
  let s := s.ended (· ≤ here.column)
  match here.rest with
  | [] => s.atEnd
  | c :: rest =>
    if c == '%' && here.column == 0 then
      let (directive, after) ← directive (s.length + 1) here
      s.outermost (.directive directive) after
    else if here.atTriple '-' then s.outermost .documentStart (here.advance 3)
    else if here.atTriple '.' then s.outermost .documentEnd (here.advance 3)
    else if c == '[' then s.opening .listStart
    else if c == '\x7b' then s.opening .mapStart
    else if c == ']' then s.closing .listEnd
    else if c == '\x7d' then s.closing .mapEnd
    else if c == ',' then s.comma
    else if c == '-' && atGap rest then s.marked .blockList .item true
    else if c == '?' && (s.inFlow || atGap rest) then s.marked .blockMap .key !s.inFlow
    else if c == ':' && (s.inFlow || atGap rest) then s.colon
    else if c == '*' then s.mayBeKey fun here => do
      let (name, after) ← anchorName here.next
      return (.alias name, after)
    else if c == '&' then s.mayBeKey fun here => do
      let (name, after) ← anchorName here.next
      return (.anchor name, after)
    else if c == '!' then s.mayBeKey fun here => do
      let (tag, after) ← tagText (s.length + 1) here
      return (.tag tag, after)
    else if (c == '|' || c == '>') && !s.inFlow then s.block
    else if c == '"' || c == '\'' then s.mayBeKey fun here => do
      let (text, after) ← quoted (s.length + 1) here
      return (.scalar (.literal text), after)
    else if beginsPlain s.inFlow here.rest then s.plain
    else .error .malformed

/-- All tokens that follow.  Every step reads a character or ends the text. -/
def run : Nat → Lexing → List Token
  | 0, s => s.certain
  | fuel + 1, s =>
    if s.isDone then s.tokens.reverse
    else
      match s.settled with
      | .error r => s.certain ++ [.refused r]
      | .ok s =>
        match s.next with
        | .error r => s.certain ++ [.refused r]
        | .ok s => run fuel s

end Lexing

/-- The tokens of a text. -/
def Token.ofText (cs : List Char) : List Token := Lexing.run (cs.length + 2) (.ofText cs)

end RowShell.Yaml
