/-
Dates and times by pattern.

A pattern is a list of elements: fields, blanks and single characters.  Fields have one
or two digits within the range of the field, a year has four and a fraction of a second
up to six.  A pattern reads a text when its elements consume the whole of it and the
fields name a date and time that exist.
-/
import RowShell.Time.Timestamp
import RowShell.Text.Trim
import RowShell.Number.Numeral

namespace RowShell

/-- A field of a date or time. -/
inductive Field where
  | year
  | month
  | day
  | hour
  | minute
  | second
  | fraction
  deriving DecidableEq

/-- A part of a pattern.  A letter stands for itself in either case. -/
inductive Pattern.Element where
  | field (f : Field)
  | blanks
  | character (c : Char)

/-- A form of dates and times. -/
abbrev Pattern := List Pattern.Element

namespace Pattern

open Text Numeral

/-- Whether an ASCII digit lies in a range of digits. -/
def within (least greatest : Char) (c : Char) : Bool := least ≤ c && c ≤ greatest

/-- Reads two digits if the two are accepted together, else one if it is accepted. -/
def oneOrTwo? (two : Char → Char → Bool) (one : Char → Bool) :
    List Char → Option (Nat × List Char)
  | a :: b :: rest =>
    if two a b then some (value [a, b], rest)
    else if one a then some (value [a], b :: rest)
    else none
  | [a] => if one a then some (value [a], []) else none
  | [] => none

/-- The number of a day: a blank space may stand in place of a leading zero. -/
def day? (cs : List Char) : Option (Nat × List Char) :=
  match cs with
  | ' ' :: c :: rest => if within '1' '9' c then some (value [c], rest) else none
  | cs =>
    oneOrTwo?
      (fun a b => (a == '3' && within '0' '1' b) || (within '1' '2' a && isDigit b) ||
        (a == '0' && within '1' '9' b))
      (within '1' '9') cs

/-- Reads a field, as a number and what follows it. -/
def field? : Field → List Char → Option (Nat × List Char)
  | .year, cs =>
    let digits := cs.take 4
    if digits.length = 4 ∧ digits.all isDigit then some (value digits, cs.drop 4) else none
  | .month, cs =>
    oneOrTwo?
      (fun a b => (a == '1' && within '0' '2' b) || (a == '0' && within '1' '9' b))
      (within '1' '9') cs
  | .day, cs => day? cs
  | .hour, cs =>
    oneOrTwo?
      (fun a b => (a == '2' && within '0' '3' b) || (within '0' '1' a && isDigit b))
      isDigit cs
  | .minute, cs => oneOrTwo? (fun a b => within '0' '5' a && isDigit b) isDigit cs
  | .second, cs =>
    oneOrTwo?
      (fun a b => (a == '6' && within '0' '1' b) || (within '0' '5' a && isDigit b))
      isDigit cs
  | .fraction, cs =>
    let digits := (cs.take 6).takeWhile isAsciiDigit
    if digits.isEmpty then none
    else some (value digits * 10 ^ (6 - digits.length), cs.drop digits.length)

/-- Whether a character stands for a character of a pattern. -/
def stands (pattern c : Char) : Bool := c == pattern || c.toUpper == pattern

/-- The fields that a pattern reads from a whole text, in order. -/
def fields? : Pattern → List Char → Option (List (Field × Nat))
  | [], cs => if cs.isEmpty then some [] else none
  | .field f :: rest, cs => do
    let (n, cs) ← field? f cs
    return (f, n) :: (← fields? rest cs)
  | .blanks :: rest, cs =>
    if cs.head?.any isBlank then fields? rest (trimStart cs) else none
  | .character p :: rest, c :: cs => if stands p c then fields? rest cs else none
  | .character _ :: _, [] => none

/-- The value of a field, and zero if it was not read. -/
def valueOf (fields : List (Field × Nat)) (f : Field) : Nat := (fields.lookup f).getD 0

/-- Reads a whole text by a pattern. -/
def timestamp? (pattern : Pattern) (cs : List Char) : Option Timestamp := do
  let fields ← fields? pattern cs
  let date ← Date.of? (valueOf fields .year) (valueOf fields .month) (valueOf fields .day)
  let time ← TimeOfDay.of? (valueOf fields .hour) (valueOf fields .minute)
    (valueOf fields .second) (valueOf fields .fraction)
  return ⟨date, time, none⟩

end Pattern

end RowShell
