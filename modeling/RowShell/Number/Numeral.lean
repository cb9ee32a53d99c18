/-
Numerals: whole numbers as decimal text.

A numeral is written in the shortest way and read in any decimal script.  Text and
whole numbers are converted into each other only up to 4300 digits; a longer number
is refused rather than written, and a longer numeral is refused rather than read.
-/
import RowShell.Text.Class

namespace RowShell.Numeral

open Text

-- Powers are those of the naturals, also where a library offers them for every monoid.
attribute [local instance (2000)] instPowNat

/-- The greatest number of digits of a numeral. -/
def maxDigits : Nat := 4300

/-- A number whose numeral would be too long. -/
def IsLong (n : Int) : Prop := 10 ^ maxDigits ≤ n.natAbs

instance (n : Int) : Decidable (IsLong n) := inferInstanceAs (Decidable (_ ≤ _))

/-- The digits of a natural number. -/
def ofNat (n : Nat) : List Char := Nat.toDigits 10 n

/-- The digits of an integer, after a minus sign when it is negative. -/
def ofInt : Int → List Char
  | .ofNat n => ofNat n
  | .negSucc n => '-' :: ofNat (n + 1)

/-- The numeral of an integer, unless it is too long. -/
def text? (n : Int) : Option String :=
  if IsLong n then none else some (String.ofList (ofInt n))

/-- The number that a run of digits denotes. -/
def value (digits : List Char) : Nat := digits.foldl (fun n c => 10 * n + digitValue c) 0

/-- The number that a run of digits denotes, unless the run is too long. -/
def value? (digits : List Char) : Option Nat :=
  if digits.length ≤ maxDigits then some (value digits) else none

/-- The leading digits of a text, and what follows them. -/
def spanDigits (cs : List Char) : List Char × List Char :=
  (cs.takeWhile isDigit, cs.dropWhile isDigit)

/-- A leading plus or minus sign, as whether it is a minus, and what follows it. -/
def spanSign : List Char → Bool × List Char
  | '-' :: rest => (true, rest)
  | '+' :: rest => (false, rest)
  | cs => (false, cs)

/-- The integer of a magnitude and a sign. -/
def signed (negative : Bool) (n : Nat) : Int := if negative then -(n : Int) else n

/-- The groups of digits of a numeral in which single underscores may stand between
digits; nothing where something else stands in it. -/
def digitGroups? (cs : List Char) : Option (List (List Char)) :=
  let groups := cs.splitOnP (· == '_')
  if groups.all fun group => !group.isEmpty && group.all isDigit then some groups else none

/-- Reads a whole text as an integer: an optional sign and digits, between which single
underscores may stand. -/
def readInt? (cs : List Char) : Option Int :=
  let (negative, magnitude) := spanSign cs
  do
    let groups ← digitGroups? magnitude
    let n ← value? groups.flatten
    return signed negative n

end RowShell.Numeral
