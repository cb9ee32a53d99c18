/-
Scalars of YAML.

A scalar is written plain, in quotes or as a block.  A plain scalar ends before a colon
or a number sign that is set off by a gap, and in brackets also before their
punctuation.  A line break inside a plain or quoted scalar is folded into a space;
`Yaml/Block` reads the scalars that are written as blocks.

Scalars in quotes and in blocks are text.  A plain scalar is null, a Boolean, a number
or a date if it has the form of one, and text otherwise; `Yaml/Plain` tells the forms
apart.
-/
import RowShell.Fault
import RowShell.Json
import RowShell.Yaml.Cursor

namespace RowShell.Yaml

/-- Why a text is refused. -/
inductive Refusal where
  | malformed
  | scalar (cause : ScalarFault)
  deriving DecidableEq

/-- A scalar, as its text: plain, or in quotes or a block. -/
inductive Scalar where
  | plain (text : List Char)
  | literal (text : List Char)

def Scalar.text : Scalar → List Char
  | .plain text => text
  | .literal text => text

/-! ### Plain scalars -/

/-- The punctuation of lists and maps in brackets. -/
def flowPunctuation : List Char := ",[]\x7b\x7d".toList

/-- Characters with which no plain scalar begins. -/
def indicators : List Char := "-?:,[]\x7b\x7d#&*!|>'\"%@\x60".toList

/-- Whether a plain scalar begins here. -/
def beginsPlain (inFlow : Bool) : List Char → Bool
  | [] => false
  | c :: rest =>
    !isGap c && (!indicators.contains c ||
      (!atGap rest && (c == '-' || (!inFlow && (c == '?' || c == ':')))))

/-- Whether a plain scalar ends before a character. -/
def endsPlain (inFlow : Bool) (c : Char) (rest : List Char) : Bool :=
  isGap c ||
    (c == ':' && (atGap rest || (inFlow && rest.head?.any flowPunctuation.contains))) ||
    (inFlow && (c == '?' || flowPunctuation.contains c))

/-- The characters of a plain scalar up to its end or a gap. -/
def plainRun (inFlow : Bool) : List Char → List Char
  | [] => []
  | c :: rest => if endsPlain inFlow c rest then [] else c :: plainRun inFlow rest

/-- Reads a plain scalar from the start of a run, up to its last character.  Outside
brackets a line that begins before the column `least` does not belong to it. -/
def plainFrom (inFlow : Bool) (least : Nat) : Nat → Cursor → List Char × Cursor
  | 0, here => ([], here)
  | fuel + 1, here =>
    let run := if here.rest.head? == some '#' then [] else plainRun inFlow here.rest
    let runEnd := here.advance run.length
    let (space, next) := Cursor.gap (· == ' ') runEnd
    if run.isEmpty || space.isEmpty || next.atMarker || (!inFlow && next.column < least) then
      (run, runEnd)
    else
      match plainFrom inFlow least fuel next with
      | ([], _) => (run, runEnd)
      | (more, after) => (run ++ space ++ more, after)

/-! ### Quoted scalars -/

/-- The character of an escape by one letter. -/
def escape? : Char → Option Char
  | '0' => some '\x00'
  | 'a' => some '\x07'
  | 'b' => some '\x08'
  | 't' => some '\t'
  | '\t' => some '\t'
  | 'n' => some '\n'
  | 'v' => some '\x0b'
  | 'f' => some '\x0c'
  | 'r' => some '\r'
  | 'e' => some '\x1b'
  | ' ' => some ' '
  | '"' => some '"'
  | '\\' => some '\\'
  | '/' => some '/'
  | 'N' => some '\u0085'
  | '_' => some '\u00a0'
  | 'L' => some '\u2028'
  | 'P' => some '\u2029'
  | _ => none

/-- The number of hexadecimal digits after the letter of an escape. -/
def escapeDigits? : Char → Option Nat
  | 'x' => some 2
  | 'u' => some 4
  | 'U' => some 8
  | _ => none

/-- The number that hexadecimal digits denote. -/
def hexNumber? (digits : List Char) : Option Nat :=
  (digits.mapM Json.hexValue?).map fun values => values.foldl (fun n d => 16 * n + d) 0

/-- The character of a numeric escape. -/
def numericEscape (count : Nat) (cs : List Char) : Except Refusal Char :=
  match hexNumber? (cs.take count) with
  | some n =>
    if cs.length < count then .error .malformed
    else if 2 ^ 31 ≤ n then .error (.scalar .tooGreat)
    else if 0x110000 ≤ n then .error (.scalar .unreadable)
    else .ok (Char.ofNat n)
  | none => .error .malformed

/-- A space or a tab. -/
def isSpaceOrTab (c : Char) : Bool := c == ' ' || c == '\t'

/-- Reads a scalar in double quotes after the opening one. -/
def doubleQuoted : Nat → Cursor → Except Refusal (List Char × Cursor)
  | 0, _ => .error .malformed
  | fuel + 1, here =>
    match here.rest with
    | [] => .error .malformed
    | '"' :: _ => .ok ([], here.advance 1)
    | '\\' :: [] => .error .malformed
    | '\\' :: c :: rest =>
      if isBreak c then do
        let (run, next) := (here.advance 2).span isGap
        if next.atMarker then .error .malformed
        else
          let (more, after) ← doubleQuoted fuel next
          return (run.filter isBreak ++ more, after)
      else
        match escape? c, escapeDigits? c with
        | some c, _ => do
          let (more, after) ← doubleQuoted fuel (here.advance 2)
          return (c :: more, after)
        | none, some count => do
          let c ← numericEscape count rest
          let (more, after) ← doubleQuoted fuel (here.advance (2 + count))
          return (c :: more, after)
        | none, none => .error .malformed
    | c :: _ =>
      if isGap c then do
        let (space, next) := Cursor.gap isSpaceOrTab here
        if next.atMarker then .error .malformed
        else
          let (more, after) ← doubleQuoted fuel next
          return (space ++ more, after)
      else do
        let (more, after) ← doubleQuoted fuel (here.advance 1)
        return (c :: more, after)

/-- Reads a scalar in single quotes after the opening one; two of them stand for one. -/
def singleQuoted : Nat → Cursor → Except Refusal (List Char × Cursor)
  | 0, _ => .error .malformed
  | fuel + 1, here =>
    match here.rest with
    | [] => .error .malformed
    | '\'' :: '\'' :: _ => do
      let (more, after) ← singleQuoted fuel (here.advance 2)
      return ('\'' :: more, after)
    | '\'' :: _ => .ok ([], here.advance 1)
    | c :: _ =>
      if isGap c then do
        let (space, next) := Cursor.gap isSpaceOrTab here
        if next.atMarker then .error .malformed
        else
          let (more, after) ← singleQuoted fuel next
          return (space ++ more, after)
      else do
        let (more, after) ← singleQuoted fuel (here.advance 1)
        return (c :: more, after)

/-- Reads a scalar in quotes, from the opening one. -/
def quoted (fuel : Nat) (here : Cursor) : Except Refusal (List Char × Cursor) :=
  if here.rest.head? == some '"' then doubleQuoted fuel here.next
  else singleQuoted fuel here.next

end RowShell.Yaml
