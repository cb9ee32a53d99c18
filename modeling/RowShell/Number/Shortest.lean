/-
The shortest decimal of a binary64 number.

A decimal reads back as a number when the number is the nearest one to it.  Among the
decimals that read back, `shortest` takes one with the fewest digits, and of those the
closest to the number.  On the grid of decimals with a given count of digits only the
two neighbours of the number have to be tried: if any point of the grid reads back,
one of them does.  Seventeen digits are always enough.
-/
import RowShell.Number.Binary64
import RowShell.Number.Numeral

namespace RowShell

/-- The decimal `digits * 10 ^ exponent`. -/
structure Decimal where
  digits : Nat
  exponent : Int
  deriving DecidableEq

namespace Binary64

/-- The decimal exponent of the leading digit of a positive magnitude. -/
def leadingExponent (units : Nat) : Int :=
  ((Numeral.ofNat (units * 10 ^ 400 / unitsPerOne)).length : Int) - 401

/-- The ordinal nearest to a decimal. -/
def nearestDecimal (d : Decimal) : Nat :=
  nearest (d.digits * 10 ^ d.exponent.toNat) (10 ^ (-d.exponent).toNat)

/-- The decimal with `count` digits, counted from the leading digit of the magnitude,
that reads back as the ordinal: of the magnitude's two neighbours on that grid the
closer one if both do, and of two equally close ones the even one. -/
def neighbour? (ordinal count : Nat) : Option Decimal :=
  let magnitude := units ordinal
  let exponent := leadingExponent magnitude + 1 - count
  let num := magnitude * 10 ^ (-exponent).toNat
  let den := unitsPerOne * 10 ^ exponent.toNat
  let below : Decimal := ⟨num / den, exponent⟩
  let above : Decimal := ⟨num / den + 1, exponent⟩
  let rest := num % den
  let closerBelow := 2 * rest < den || (2 * rest == den && below.digits % 2 == 0)
  let readsBack d := nearestDecimal d == ordinal
  if readsBack below && (closerBelow || !readsBack above) then some below
  else if readsBack above then some above
  else none

/-- The magnitude of an ordinal as a decimal, without rounding. -/
def exactDecimal (ordinal : Nat) : Decimal := ⟨units ordinal * 5 ^ 1074, -1074⟩

/-- The shortest decimal that reads back as a positive ordinal. -/
def shortest (ordinal : Nat) : Decimal :=
  ((List.range 17).findSome? fun n => neighbour? ordinal (n + 1)).getD (exactDecimal ordinal)

end Binary64

end RowShell
