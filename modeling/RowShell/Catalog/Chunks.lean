/-
Bracket groups of a text.

The shell prints one JSON array after another for a script of several statements.  The
groups are the parts of the text from an opening bracket outside all others to the
bracket that closes it.  Brackets inside double quotes do not count; a backslash inside
quotes takes the next character with it.
-/

namespace RowShell.Chunks

/-- Where a scan stands: outside quotes, inside, or after a backslash inside. -/
inductive Place where
  | plain
  | quoted
  | escaped
  deriving DecidableEq

/-- The place after a character. -/
def Place.next : Place → Char → Place
  | .plain, c => if c == '"' then .quoted else .plain
  | .quoted, c => if c == '\\' then .escaped else if c == '"' then .plain else .quoted
  | .escaped, _ => .quoted

/-- The number of open brackets after a character. -/
def Place.depth : Place → Nat → Char → Nat
  | .plain, depth, c => if c == '[' then depth + 1 else if c == ']' then depth - 1 else depth
  | _, depth, _ => depth

/-- The groups of a text from a place on, at a depth, where `held` is the group in
progress, its last character first. -/
def scan : Place → Nat → List Char → List Char → List (List Char)
  | _, _, _, [] => []
  | place, depth, held, c :: rest =>
    let depth' := place.depth depth c
    if depth = 0 ∧ depth' = 0 then scan (place.next c) 0 [] rest
    else if depth' = 0 then (c :: held).reverse :: scan (place.next c) 0 [] rest
    else scan (place.next c) depth' (c :: held) rest

/-- The groups of a text, in order. -/
def split (cs : List Char) : List (List Char) := scan .plain 0 [] cs

/-- The groups of a string, in order. -/
def ofText (s : String) : List String := (split s.toList).map String.ofList

end RowShell.Chunks
