/-
The text of a binary64 number.

A finite number is written with the digits of its shortest decimal.  The notation is
positional while the exponent of the leading digit is at least -4 and below 16, and
then shows at least one digit on each side of the point; otherwise it is one digit, a
fraction if there are more, and an exponent with a sign and at least two digits.
-/
import RowShell.Number.Shortest

namespace RowShell.Binary64

/-- The digits of a decimal without the zeros at their end. -/
def significantDigits (d : Decimal) : List Char :=
  ((Numeral.ofNat d.digits).reverse.dropWhile (· == '0')).reverse

/-- The exponent of the leading digit of a decimal. -/
def leadingOf (d : Decimal) : Int :=
  d.exponent + (Numeral.ofNat d.digits).length - 1

/-- A number in positional notation: its digits, and how many of them, or of the zeros
after them, stand before the point; a negative count puts zeros after the point. -/
def positional (digits : List Char) (whole : Int) : List Char :=
  if whole ≤ 0 then '0' :: '.' :: List.replicate (-whole).toNat '0' ++ digits
  else
    let n := whole.toNat
    if digits.length ≤ n then digits ++ List.replicate (n - digits.length) '0' ++ ['.', '0']
    else digits.take n ++ '.' :: digits.drop n

/-- The sign and digits of an exponent. -/
def exponentText (exponent : Int) : List Char :=
  let digits := Numeral.ofNat exponent.natAbs
  (if exponent < 0 then '-' else '+') :: (List.replicate (2 - digits.length) '0' ++ digits)

/-- A number in exponent notation. -/
def scientific (digits : List Char) (exponent : Int) : List Char :=
  digits.take 1 ++ (if digits.length ≤ 1 then [] else '.' :: digits.drop 1) ++
    'e' :: exponentText exponent

/-- The text of a finite magnitude. -/
def magnitudeText (ordinal : Nat) : List Char :=
  if ordinal = 0 then ['0', '.', '0']
  else
    let d := shortest ordinal
    let leading := leadingOf d
    if -4 ≤ leading ∧ leading < 16 then positional (significantDigits d) (leading + 1)
    else scientific (significantDigits d) leading

/-- The text of a number. -/
def display : Binary64 → String
  | .nan => "nan"
  | .infinity negative => if negative then "-inf" else "inf"
  | .finite negative ordinal =>
    String.ofList ((if negative then ['-'] else []) ++ magnitudeText ordinal.val)

end RowShell.Binary64
