/-
The number at the front of a text.

Text such as `12.5kg` counts as the number it begins with.  After blanks and a sign
that number is `Infinity`, or digits with an optional point and fraction, or a point
and a fraction, and the last two may carry an exponent.  A part that is not complete,
such as an exponent without digits, is left unread.
-/
import RowShell.Number.Binary64
import RowShell.Number.Numeral
import RowShell.Text.Trim

namespace RowShell.Leading

open Text Numeral

/-- An exponent and what follows it; without a complete exponent nothing is read. -/
def spanExponent : List Char → Int × List Char
  | [] => (0, [])
  | c :: rest =>
    if c == 'e' || c == 'E' then
      let (negative, afterSign) := spanSign rest
      let (digits, afterDigits) := spanDigits afterSign
      if digits.isEmpty then (0, c :: rest) else (signed negative (value digits), afterDigits)
    else (0, c :: rest)

/-- The digits before and after the point, and what follows them; at least one digit is
needed. -/
def spanDigitsAndFraction? (cs : List Char) : Option (List Char × List Char × List Char) :=
  let (whole, rest) := spanDigits cs
  match rest with
  | '.' :: afterPoint =>
    let (fraction, rest) := spanDigits afterPoint
    if whole.isEmpty && fraction.isEmpty then none else some (whole, fraction, rest)
  | rest => if whole.isEmpty then none else some (whole, [], rest)

/-- The unsigned number at the front of a text, and what follows it. -/
def magnitude? (negative : Bool) (cs : List Char) : Option (Binary64 × List Char) :=
  if "Infinity".toList.isPrefixOf cs then some (.infinity negative, cs.drop 8)
  else
    match spanDigitsAndFraction? cs with
    | none => none
    | some (whole, fraction, rest) =>
      let (exponent, rest) := spanExponent rest
      some (.ofDecimal negative (value (whole ++ fraction)) (exponent - fraction.length), rest)

/-- The number at the front of a text and what follows it, after blanks and a sign. -/
def number? (cs : List Char) : Option (Binary64 × List Char) :=
  let (negative, rest) := spanSign (trimStart cs)
  magnitude? negative rest

/-- The number that a text begins with. -/
def float? (s : String) : Option Binary64 := (number? s.toList).map (·.1)

/-- The sign and the digits of the integer that a text begins with. -/
def integerDigits? (cs : List Char) : Option (Bool × List Char) :=
  let (negative, rest) := spanSign (trimStart cs)
  let digits := rest.takeWhile isDigit
  if digits.isEmpty then none else some (negative, digits)

end RowShell.Leading
