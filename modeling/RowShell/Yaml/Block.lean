/-
Scalars written as blocks.

A bar or a greater-than sign opens a block: the lines after it, as far as they are
indented, are the text of a scalar.  After a bar the line breaks stand for themselves;
after a greater-than sign they are folded, except next to lines that begin with a gap.
A sign behind the opening character says whether the breaks at the end are all kept or
all left out, and a digit how far the block is indented; without it the first line
that is not empty decides.
-/
import RowShell.Yaml.Scalar

namespace RowShell.Yaml.Block

/-- Which line breaks at the end of a block belong to its text. -/
inductive Chomping where
  | first
  | all
  | none

/-- The line breaks that belong to the text, of the one that ends the last line and those
of the empty lines after it. -/
def Chomping.keep (chomping : Chomping) (lineBreak emptyLines : List Char) : List Char :=
  match chomping with
  | .first => lineBreak
  | .all => lineBreak ++ emptyLines
  | .none => []

def chomping? : Char → Option Chomping
  | '+' => some .all
  | '-' => some .none
  | _ => none

/-- The indentation that a digit asks for. -/
def increment? (c : Char) : Option Nat :=
  if Text.isAsciiDigit c then some (c.toNat - 0x30) else none

/-- What the sign and the digit behind the opening character say, and how many of the
two there are; they stand in any order. -/
def header (cs : List Char) : Chomping × Option Nat × Nat :=
  let second := (cs.drop 1).head?
  match cs.head?.bind chomping?, cs.head?.bind increment? with
  | some chomping, _ =>
    match second.bind increment? with
    | some n => (chomping, some n, 2)
    | none => (chomping, none, 1)
  | none, some n =>
    match second.bind chomping? with
    | some chomping => (chomping, some n, 2)
    | none => (.first, some n, 1)
  | none, none => (.first, none, 0)

/-- The breaks of empty lines, and the place after them: in the last line at most at the
column `indent`. -/
def emptyLines (indent : Nat) : Nat → Cursor → List Char × Cursor
  | 0, here => ([], here)
  | fuel + 1, here =>
    let spaces := (here.rest.take (indent - here.column)).takeWhile (· == ' ')
    let here := here.advance spaces.length
    match here.rest with
    | c :: _ =>
      if isBreak c then
        let (breaks, after) := emptyLines indent fuel here.next
        (c :: breaks, after)
      else ([], here)
    | [] => ([], here)

/-- Whether a line of the block begins here. -/
def atLine (indent : Nat) (here : Cursor) : Bool := here.column == indent && !here.rest.isEmpty

/-- Whether a line begins with a space or a tab. -/
def isSpaced (here : Cursor) : Bool := here.rest.head?.any isSpaceOrTab

/-- The text of a block from the start of a line that is not empty, and the place after
it. -/
def lines (isFolded : Bool) (chomping : Chomping) (indent : Nat) :
    Nat → Cursor → List Char × Cursor
  | 0, here => ([], here)
  | fuel + 1, here =>
    let (line, lineEnd) := here.span fun c => !isBreak c
    let lineBreak := lineEnd.rest.take 1
    let (breaks, next) := emptyLines indent fuel lineEnd.next
    if atLine indent next then
      let (more, after) := lines isFolded chomping indent fuel next
      let joint :=
        if isFolded && lineBreak == ['\n'] && !isSpaced here && !isSpaced next then
          if breaks.isEmpty then [' '] else []
        else lineBreak
      (line ++ joint ++ breaks ++ more, after)
    else (line ++ chomping.keep lineBreak breaks, next)

/-- The column of the first line that is not empty, or of the longest empty line before
it. -/
def foundIndent (run : List Char) : Nat := ((run.splitOnP isBreak).map List.length).foldl max 0

/-- Reads a block from its opening character; it is indented at least to a column. -/
def read (fuel least : Nat) (here : Cursor) : Except Refusal (List Char × Cursor) :=
  let isFolded := here.rest.head? == some '>'
  let (chomping, increment, length) := header (here.rest.drop 1)
  let afterHeader := here.advance (length + 1)
  let least := max least 1
  if increment == some 0 || !afterHeader.atSpace then .error .malformed
  else
    match afterHeader.nextLine? with
    | none => .error .malformed
    | some first =>
      let (indent, breaks, start) := match increment with
        | some n =>
          let indent := least + n - 1
          (indent, emptyLines indent fuel first)
        | none =>
          let (run, start) := first.span fun c => c == ' ' || isBreak c
          (max least (foundIndent run), run.filter isBreak, start)
      if atLine indent start then
        let (text, after) := lines isFolded chomping indent fuel start
        .ok (breaks ++ text, after)
      else .ok (chomping.keep [] breaks, start)

end RowShell.Yaml.Block
