/-
Reading JSON.

The shell prints listings and query results as JSON, and a configuration may be written
in it.  Numbers without fraction and exponent are whole numbers, all others binary64
numbers; `NaN`, `Infinity` and `-Infinity` are read too.  An object lists its keys at
their first places with their last values.

Two readers share the grammar.  They differ in how deep lists and objects may be nested,
in how long the whole part of a number may be, and in whether half of a pair of
surrogates may be escaped alone.

Half of a pair is no character, so where it may be escaped it is read as the replacement
character, and which half it was is lost.  Two keys of an object that differ in such
halves only are then one key, with the value of the last.
-/
import RowShell.Keyed
import RowShell.Number.Numeral
import RowShell.Text.Encoding
import RowShell.Value.Basic

namespace RowShell.Json

/-- Why a text is refused. -/
inductive Refusal where
  | malformed
  | longNumeral
  deriving DecidableEq

/-- What a reader accepts beside the grammar. -/
structure Dialect where
  /-- How deep lists and objects may be nested, those without members aside. -/
  maxDepth : Option Nat
  /-- How many characters the whole part of any number may have, its sign among them. -/
  maxWhole : Option Nat
  /-- Whether a lone surrogate may be escaped. -/
  loneSurrogates : Bool

/-- Query results and configurations. -/
def Dialect.lenient : Dialect := ⟨none, none, true⟩

/-- Column listings. -/
def Dialect.strict : Dialect := ⟨some 200, some Numeral.maxDigits, false⟩

/-- The white space between tokens. -/
def isSpace (c : Char) : Bool := c == ' ' || c == '\t' || c == '\n' || c == '\r'

def skipSpace (cs : List Char) : List Char := cs.dropWhile isSpace

/-! ### Strings -/

def hexValue? (c : Char) : Option Nat :=
  let n := c.toNat
  if 0x30 ≤ n ∧ n ≤ 0x39 then some (n - 0x30)
  else if 0x41 ≤ n ∧ n ≤ 0x46 then some (n - 0x41 + 10)
  else if 0x61 ≤ n ∧ n ≤ 0x66 then some (n - 0x61 + 10)
  else none

/-- The number of four hexadecimal digits. -/
def unit? (a b c d : Char) : Option Nat := do
  return 0x1000 * (← hexValue? a) + 0x100 * (← hexValue? b) + 0x10 * (← hexValue? c) +
    (← hexValue? d)

/-- The character of an escape by one letter. -/
def escape? : Char → Option Char
  | '"' => some '"'
  | '\\' => some '\\'
  | '/' => some '/'
  | 'b' => some '\x08'
  | 'f' => some '\x0c'
  | 'n' => some '\n'
  | 'r' => some '\r'
  | 't' => some '\t'
  | _ => none

/-- What a string is made of: characters, and escaped units of sixteen bits. -/
inductive Piece where
  | char (c : Char)
  | unit (n : Nat)

/-- The pieces of a string up to its closing quote. -/
def pieces : List Char → Except Refusal (List Piece × List Char)
  | [] => .error .malformed
  | c :: rest =>
    if c == '"' then .ok ([], rest)
    else if c == '\\' then
      match rest with
      | 'u' :: a :: b :: c :: d :: rest =>
        match unit? a b c d with
        | some n => do
          let (more, after) ← pieces rest
          return (.unit n :: more, after)
        | none => .error .malformed
      | c :: rest =>
        match escape? c with
        | some c => do
          let (more, after) ← pieces rest
          return (.char c :: more, after)
        | none => .error .malformed
      | [] => .error .malformed
    else if c.toNat < 0x20 then .error .malformed
    else do
      let (more, after) ← pieces rest
      return (.char c :: more, after)

/-- The character of a unit by itself.  All lone surrogates are read as one character. -/
def single (d : Dialect) (n : Nat) : Except Refusal Char :=
  if Encoding.isLeading n || Encoding.isTrailing n then
    if d.loneSurrogates then .ok Encoding.replacement else .error .malformed
  else .ok (Char.ofNat n)

/-- The characters of pieces: two units that form a pair are one character. -/
def assemble (d : Dialect) : List Piece → Except Refusal (List Char)
  | [] => .ok []
  | .char c :: rest => do return c :: (← assemble d rest)
  | .unit n :: .unit m :: rest =>
    if Encoding.isLeading n && Encoding.isTrailing m then do
      return Encoding.ofPair n m :: (← assemble d rest)
    else do
      let c ← single d n
      return c :: (← assemble d (.unit m :: rest))
  | .unit n :: rest => do
    let c ← single d n
    return c :: (← assemble d rest)

/-- Reads a string after its opening quote. -/
def string (d : Dialect) (cs : List Char) : Except Refusal (String × List Char) := do
  let (read, rest) ← pieces cs
  return (String.ofList (← assemble d read), rest)

/-! ### Numbers -/

/-- The whole part of a number: a zero alone, or digits that begin with none. -/
def wholePart? (cs : List Char) : Option (List Char × List Char) :=
  match cs with
  | '0' :: rest => some (['0'], rest)
  | cs =>
    let digits := cs.takeWhile Text.isAsciiDigit
    if digits.isEmpty then none else some (digits, cs.drop digits.length)

/-- The digits of a fraction after its point; without digits there is no fraction. -/
def fractionPart (cs : List Char) : Option (List Char) × List Char :=
  match cs with
  | '.' :: rest =>
    let digits := rest.takeWhile Text.isAsciiDigit
    if digits.isEmpty then (none, cs) else (some digits, rest.drop digits.length)
  | cs => (none, cs)

/-- The exponent; without digits there is none. -/
def exponentPart (cs : List Char) : Option Int × List Char :=
  match cs with
  | c :: rest =>
    if c == 'e' || c == 'E' then
      let (negative, rest) := Numeral.spanSign rest
      let digits := rest.takeWhile Text.isAsciiDigit
      if digits.isEmpty then (none, cs)
      else (some (Numeral.signed negative (Numeral.value digits)), rest.drop digits.length)
    else (none, cs)
  | [] => (none, [])

/-- Reads a number after its sign. -/
def number (d : Dialect) (negative : Bool) (cs : List Char) : Except Refusal (Value × List Char) :=
  match wholePart? cs with
  | none => .error .malformed
  | some (whole, rest) =>
    let (fraction, rest) := fractionPart rest
    let (exponent, rest) := exponentPart rest
    if d.maxWhole.any (· < whole.length + negative.toNat) then .error .longNumeral
    else if fraction.isNone && exponent.isNone then
      match Numeral.value? whole with
      | some n => .ok (.int (Numeral.signed negative n), rest)
      | none => .error .longNumeral
    else
      let digits := fraction.getD []
      let scale := exponent.getD 0 - digits.length
      .ok (.float (.ofDecimal negative (Numeral.value (whole ++ digits)) scale), rest)

/-! ### Values -/

/-- The values that are words. -/
def words : List (String × Value) :=
  [("null", .null), ("true", .bool true), ("false", .bool false), ("NaN", .float .nan),
    ("Infinity", .float (.infinity false)), ("-Infinity", .float (.infinity true))]

/-- Reads a value that is a word or a number. -/
def scalar (d : Dialect) (cs : List Char) : Except Refusal (Value × List Char) :=
  match words.find? fun (word, _) => word.toList.isPrefixOf cs with
  | some (word, value) => .ok (value, cs.drop word.length)
  | none =>
    match cs with
    | '-' :: rest => number d true rest
    | cs => number d false cs

mutual

/-- Reads a value; `depth` more lists or objects with members may be opened. -/
def value (d : Dialect) : Nat → Option Nat → List Char → Except Refusal (Value × List Char)
  | 0, _, _ => .error .malformed
  | fuel + 1, depth, cs =>
    match skipSpace cs with
    | '"' :: rest => do
      let (s, rest) ← string d rest
      return (.text s, rest)
    | '[' :: rest =>
      match skipSpace rest with
      | ']' :: rest => .ok (.list [], rest)
      | rest =>
        if depth == some 0 then .error .malformed
        else do
          let (read, rest) ← items d fuel (depth.map (· - 1)) rest
          return (.list read, rest)
    | '\x7b' :: rest =>
      match skipSpace rest with
      | '\x7d' :: rest => .ok (.map [], rest)
      | rest =>
        if depth == some 0 then .error .malformed
        else do
          let (read, rest) ← entries d fuel (depth.map (· - 1)) rest
          return (.map (Keyed.ofList Prod.fst read), rest)
    | cs => scalar d cs

/-- Reads the items of a list up to its end. -/
def items (d : Dialect) : Nat → Option Nat → List Char → Except Refusal (List Value × List Char)
  | 0, _, _ => .error .malformed
  | fuel + 1, depth, cs => do
    let (item, rest) ← value d fuel depth cs
    match skipSpace rest with
    | ',' :: rest => do
      let (more, rest) ← items d fuel depth rest
      return (item :: more, rest)
    | ']' :: rest => return ([item], rest)
    | _ => .error .malformed

/-- Reads the entries of an object up to its end. -/
def entries (d : Dialect) :
    Nat → Option Nat → List Char → Except Refusal (List (String × Value) × List Char)
  | 0, _, _ => .error .malformed
  | fuel + 1, depth, cs =>
    match skipSpace cs with
    | '"' :: rest => do
      let (key, rest) ← string d rest
      match skipSpace rest with
      | ':' :: rest => do
        let (item, rest) ← value d fuel depth rest
        match skipSpace rest with
        | ',' :: rest => do
          let (more, rest) ← entries d fuel depth rest
          return ((key, item) :: more, rest)
        | '\x7d' :: rest => return ([(key, item)], rest)
        | _ => .error .malformed
      | _ => .error .malformed
    | _ => .error .malformed

end

/-- Reads a whole text.  Each character begins at most one value and one list or object,
so twice the length of the text bounds the number of steps. -/
def read (d : Dialect) (s : String) : Except Refusal Value := do
  let cs := s.toList
  let (v, rest) ← value d (2 * cs.length + 2) d.maxDepth cs
  if (skipSpace rest).isEmpty then return v else .error .malformed

end RowShell.Json
