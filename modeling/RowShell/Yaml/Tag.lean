/-
Tags, anchors and directives.

A tag before a node says what kind of value it stands for.  A tag is written with a
handle: two exclamation marks stand for the kinds that every text may use, and other
handles for kinds that are declared by directives or known to the reader alone, which
here are none.  An anchor names a node, and an alias repeats it.
-/
import RowShell.Yaml.Scalar

namespace RowShell.Yaml

/-- What a tag says. -/
inductive Tag where
  /-- One of the kinds that every text may use. -/
  | core (kind : String)
  | unknown
  deriving DecidableEq

/-- A tag as written: with a handle, whole, or as an exclamation mark alone, which asks
for what a plain node stands for. -/
inductive TagText where
  | short (handle : List Char) (suffix : List Char)
  | whole (text : List Char)
  | bare

inductive Directive where
  | version (major : Nat)
  | handle (name : List Char)
  | other

/-- A character of a name. -/
def isNameChar (c : Char) : Bool :=
  ('0' ≤ c && c ≤ '9') || ('A' ≤ c && c ≤ 'Z') || ('a' ≤ c && c ≤ 'z') || c == '-' || c == '_'

/-- A character of a tag. -/
def isTagChar (c : Char) : Bool := isNameChar c || ";/?:@&=+$,.!~*'()[]%".toList.contains c

/-- Reads the name of an anchor after its indicator. -/
def anchorName (here : Cursor) : Except Refusal (List Char × Cursor) :=
  let (name, after) := here.span isNameChar
  if name.isEmpty || !(atGap after.rest || after.rest.head?.any "?:,]\x7d%@\x60".toList.contains)
  then .error .malformed
  else .ok (name, after)

/-! ### Tags -/

/-- The bytes that escapes with a percent sign stand for, and the place after them. -/
def escapedBytes : Nat → Cursor → Except Refusal (List UInt8 × Cursor)
  | 0, here => .ok ([], here)
  | fuel + 1, here =>
    match here.rest with
    | '%' :: digits => do
      match hexNumber? (digits.take 2) with
      | some n =>
        if digits.length < 2 then .error .malformed
        else
          let (more, after) ← escapedBytes fuel (here.advance 3)
          return (.ofNat n :: more, after)
      | none => .error .malformed
    | _ => .ok ([], here)

/-- Reads the characters of a tag, some of which may be escaped. -/
def tagChars : Nat → Cursor → Except Refusal (List Char × Cursor)
  | 0, here => .ok ([], here)
  | fuel + 1, here => do
    let (run, next) := here.span fun c => isTagChar c && c != '%'
    if next.rest.head? == some '%' then
      let (bytes, next) ← escapedBytes fuel next
      match Encoding.utf8.decode? bytes with
      | some text =>
        let (more, after) ← tagChars fuel next
        return (run ++ text.toList ++ more, after)
      | none => .error .malformed
    else return (run, next)

/-- Reads the part of a tag after its handle, at least one character. -/
def tagSuffix (fuel : Nat) (here : Cursor) : Except Refusal (List Char × Cursor) := do
  let (text, after) ← tagChars fuel here
  if text.isEmpty then .error .malformed else return (text, after)

/-- Reads a handle: an exclamation mark, alone or with a name and a second one. -/
def tagHandle (here : Cursor) : Except Refusal (List Char × Cursor) :=
  match here.rest with
  | '!' :: ' ' :: _ => .ok (['!'], here.next)
  | '!' :: _ =>
    let (name, after) := here.next.span isNameChar
    if after.rest.head? == some '!' then .ok ('!' :: name ++ ['!'], after.next)
    else .error .malformed
  | _ => .error .malformed

/-- Reads a tag from its exclamation mark. -/
def tagText (fuel : Nat) (here : Cursor) : Except Refusal (TagText × Cursor) := do
  let rest := here.rest.drop 1
  let (tag, after) ← if rest.head? == some '<' then do
      let (text, after) ← tagSuffix fuel (here.advance 2)
      if after.rest.head? == some '>' then pure (TagText.whole text, after.next)
      else .error .malformed
    else if atGap rest then pure (TagText.bare, here.next)
    else do
      let word := rest.takeWhile fun c => c != ' ' && !isBreak c
      let (handle, next) ← if word.contains '!' then tagHandle here else pure (['!'], here.next)
      let (suffix, after) ← tagSuffix fuel next
      pure (TagText.short handle suffix, after)
  if after.atSpace then return (tag, after) else .error .malformed

/-! ### Directives -/

/-- Reads a whole number of a version. -/
def versionNumber (here : Cursor) : Except Refusal (Nat × Cursor) :=
  let (digits, after) := here.span Text.isAsciiDigit
  if digits.isEmpty then .error .malformed
  else match Numeral.value? digits with
    | some n => .ok (n, after)
    | none => .error (.scalar .unreadable)

/-- Reads the version that a text is written in. -/
def version (here : Cursor) : Except Refusal (Directive × Cursor) := do
  let (major, next) ← versionNumber here.skipSpaces
  if next.rest.head? == some '.' then
    let (_, after) ← versionNumber next.next
    if after.atSpace then return (.version major, after) else .error .malformed
  else .error .malformed

/-- Reads the declaration of a handle. -/
def declaredHandle (fuel : Nat) (here : Cursor) : Except Refusal (Directive × Cursor) := do
  let (handle, next) ← tagHandle here.skipSpaces
  if next.rest.head? == some ' ' then
    let (_, after) ← tagSuffix fuel next.skipSpaces
    if after.atSpace then return (.handle handle, after) else .error .malformed
  else .error .malformed

/-- Reads a directive from its percent sign, and its line to the end. -/
def directive (fuel : Nat) (here : Cursor) : Except Refusal (Directive × Cursor) := do
  let (name, next) := here.next.span isNameChar
  if name.isEmpty || !next.atSpace then .error .malformed
  else
    let (directive, after) ←
      if name == "YAML".toList then version next
      else if name == "TAG".toList then declaredHandle fuel next
      else pure (Directive.other, (next.span fun c => !isBreak c).2)
    match after.nextLine? with
    | some after => return (directive, after)
    | none => .error .malformed

end RowShell.Yaml
