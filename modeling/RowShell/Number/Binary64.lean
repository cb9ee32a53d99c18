/-
Binary floating point numbers of 64 bits.

A finite magnitude is given by its ordinal, its place among all finite magnitudes in
increasing order, so that equal numbers have one representation.  Every finite
magnitude is a whole multiple of the least positive one, `2 ^ -1074`; `units` is that
multiple.  The ordinals below `2 ^ 52` are the subnormal magnitudes, and each further
run of `2 ^ 52` ordinals doubles the distance between neighbours.

All arithmetic is exact on naturals.  `nearest` is the one place where a number is
rounded: it takes the ordinal whose magnitude is closest to a ratio, and of two that
are equally close the even one.  Reading a decimal, converting an integer and
dividing all go through it.
-/

namespace RowShell

-- Powers are those of the naturals, also where a library offers them for every monoid.
attribute [scoped instance (2000)] instPowNat
attribute [default_instance (20000)] instPowNat

/-- The number of finite magnitudes. -/
abbrev Binary64.finiteCount : Nat := 2047 * 2 ^ 52

/-- A binary64 number; not a number is a single value. -/
inductive Binary64 where
  | nan
  | infinity (negative : Bool)
  | finite (negative : Bool) (ordinal : Fin Binary64.finiteCount)
  deriving DecidableEq

namespace Binary64

/-- The units in one. -/
def unitsPerOne : Nat := 2 ^ 1074

/-- The magnitude of an ordinal as a multiple of `2 ^ -1074`. -/
def units (ordinal : Nat) : Nat :=
  if ordinal < 2 ^ 52 then ordinal
  else (2 ^ 52 + ordinal % 2 ^ 52) * 2 ^ (ordinal / 2 ^ 52 - 1)

/-- The ordinal of the magnitude nearest to a ratio, ties going to the even ordinal.  It
is beyond the finite ordinals when the ratio is too great for a finite magnitude. -/
def nearest (num den : Nat) : Nat :=
  let scaled := num * unitsPerOne
  let shift := (scaled / den).log2 - 52
  let step := den * 2 ^ shift
  let below := shift * 2 ^ 52 + scaled / step
  let rest := scaled % step
  if step < 2 * rest || (2 * rest == step && below % 2 == 1) then below + 1 else below

/-- The number of an ordinal and a sign, infinite beyond the finite ordinals. -/
def ofOrdinal (negative : Bool) (ordinal : Nat) : Binary64 :=
  if h : ordinal < finiteCount then .finite negative ⟨ordinal, h⟩ else .infinity negative

/-- The number nearest to a ratio of naturals with a sign. -/
def ofRatio (negative : Bool) (num den : Nat) : Binary64 :=
  ofOrdinal negative (nearest num den)

/-- Zero with a sign. -/
def zero (negative : Bool) : Binary64 := ofOrdinal negative 0

/-- A number that is finite. -/
def finite? : Binary64 → Option Binary64
  | .finite negative ordinal => some (.finite negative ordinal)
  | _ => none

/-- The number nearest to an integer, unless that is infinite. -/
def ofInt? (n : Int) : Option Binary64 := (ofRatio (n < 0) n.natAbs 1).finite?

/-- The number nearest to `digits * 10 ^ exponent`, with a sign.  Exponents so great or
so small that the result is infinite or zero whatever the digits are decided without
computing the power. -/
def ofDecimal (negative : Bool) (digits : Nat) (exponent : Int) : Binary64 :=
  if digits = 0 then zero negative
  else if 400 ≤ exponent then .infinity negative
  else if exponent + (digits.log2 + 1) ≤ -330 then zero negative
  else if 0 ≤ exponent then ofRatio negative (digits * 10 ^ exponent.toNat) 1
  else ofRatio negative digits (10 ^ (-exponent).toNat)

def isFinite : Binary64 → Bool
  | .finite _ _ => true
  | _ => false

/-- Zero of either sign. -/
def isZero : Binary64 → Bool
  | .finite _ ordinal => ordinal.val == 0
  | _ => false

/-- A finite number without its fraction. -/
def trunc? : Binary64 → Option Int
  | .finite negative ordinal =>
    let whole : Int := (units ordinal.val / unitsPerOne : Nat)
    some (if negative then -whole else whole)
  | _ => none

/-- The integer that a number equals, if it equals one. -/
def toInt? : Binary64 → Option Int
  | .finite negative ordinal =>
    if units ordinal.val % unitsPerOne = 0 then
      trunc? (.finite negative ordinal)
    else none
  | _ => none

end Binary64

end RowShell
