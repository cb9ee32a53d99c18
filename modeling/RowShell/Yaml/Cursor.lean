/-
Places in a YAML text.

A cursor is what is left of a text, with the index, the line and the column of its
first character.  Structure is read off the columns at which tokens begin, so every
reader of this folder takes a cursor and returns one.  Between tokens stand spaces,
line breaks and comments; a tab between tokens belongs to none of them and is no token
either.
-/

namespace RowShell.Yaml

structure Cursor where
  rest : List Char
  index : Nat
  line : Nat
  column : Nat

/-- A character that ends a line. -/
def isBreak (c : Char) : Bool := c == '\n' || c == '\u2028' || c == '\u2029'

/-- A space, a tab or a line break. -/
def isGap (c : Char) : Bool := c == ' ' || c == '\t' || isBreak c

/-- Whether nothing, or a gap, is next. -/
def atGap (cs : List Char) : Bool := cs.head?.all isGap

namespace Cursor

def ofText (cs : List Char) : Cursor := ⟨cs, 0, 0, 0⟩

/-- The place after the next character.  A byte order mark takes up no column. -/
def next (here : Cursor) : Cursor :=
  match here.rest with
  | [] => here
  | c :: rest =>
    if isBreak c then ⟨rest, here.index + 1, here.line + 1, 0⟩
    else ⟨rest, here.index + 1, here.line, if c == '\ufeff' then here.column else here.column + 1⟩

/-- The place some characters further. -/
def advance (here : Cursor) : Nat → Cursor
  | 0 => here
  | count + 1 => here.next.advance count

/-- The characters up to the first that is not of a class, and the place after them. -/
def span (inClass : Char → Bool) (here : Cursor) : List Char × Cursor :=
  let run := here.rest.takeWhile inClass
  (run, here.advance run.length)

/-- The place after the spaces that are next. -/
def skipSpaces (here : Cursor) : Cursor := (here.span (· == ' ')).2

/-- The number of characters before the next token of a text, inside a comment or not. -/
def lengthToToken (inComment : Bool) : List Char → Nat
  | [] => 0
  | c :: rest =>
    if isBreak c then lengthToToken false rest + 1
    else if inComment || c == ' ' then lengthToToken inComment rest + 1
    else if c == '#' then lengthToToken true rest + 1
    else 0

/-- The next token. -/
def token (here : Cursor) : Cursor := here.advance (lengthToToken false here.rest)

/-- Whether a line begins here with three of a character and then a gap. -/
def atTriple (here : Cursor) (c : Char) : Bool :=
  here.column == 0 && [c, c, c].isPrefixOf here.rest && atGap (here.rest.drop 3)

/-- Whether a document begins or ends here. -/
def atMarker (here : Cursor) : Bool := here.atTriple '-' || here.atTriple '.'

/-- Whether the line, or the text, ends here. -/
def atLineEnd (here : Cursor) : Bool := here.rest.head?.all isBreak

/-- Whether a space is next, or the line ends here. -/
def atSpace (here : Cursor) : Bool := here.atLineEnd || here.rest.head? == some ' '

/-- The start of the next line, if this one holds nothing more than a comment. -/
def nextLine? (here : Cursor) : Option Cursor :=
  let here := here.skipSpaces
  let here := if here.rest.head? == some '#' then (here.span fun c => !isBreak c).2 else here
  if here.atLineEnd then some here.next else none

/-! ### Gaps inside scalars -/

/-- The breaks of a gap folded: a single line feed is read as a space, and the first of
several is left out. -/
def folded : List Char → List Char
  | ['\n'] => [' ']
  | '\n' :: more => more
  | breaks => breaks

/-- The text that a gap inside a scalar stands for, and the place after it.  A gap
consists of line breaks and of characters of the class `between`. -/
def gap (between : Char → Bool) (here : Cursor) : List Char × Cursor :=
  let (run, after) := here.span fun c => between c || isBreak c
  match run.filter isBreak with
  | [] => (run, after)
  | breaks => (folded breaks, after)

end Cursor

end RowShell.Yaml
