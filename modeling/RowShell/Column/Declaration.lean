/-
Type declarations.

A declaration such as `VARCHAR(10)` names a base type, which ends at the first opening
parenthesis, and may bound the size by a number in parentheses, which may stand anywhere.
-/
import RowShell.Fault
import RowShell.Number.Numeral
import RowShell.Text.Trim

namespace RowShell

structure Declaration where
  base : String
  size : Option Nat
  deriving DecidableEq

namespace Declaration

/-- The base type where a declaration names none. -/
def noBase : String := "NONE"

/-- The text before the first opening parenthesis, trimmed. -/
def baseOf (cs : List Char) : String :=
  let base := Text.trim (cs.takeWhile (· != '('))
  if base.isEmpty then noBase else String.ofList base

/-- The digits of the first number that stands alone between parentheses. -/
def sizeDigits? : List Char → Option (List Char)
  | [] => none
  | c :: rest =>
    let (digits, after) := Numeral.spanDigits rest
    if c == '(' && !digits.isEmpty && after.head? == some ')' then some digits
    else sizeDigits? rest

/-- The bound on the size, if there is one. -/
def sizeOf? (cs : List Char) : Except Fault (Option Nat) :=
  match sizeDigits? cs with
  | none => .ok none
  | some digits =>
    match Numeral.value? digits with
    | some n => .ok (some n)
    | none => .error .longNumeral

def read (text : String) : Except Fault Declaration := do
  return ⟨baseOf text.toList, ← sizeOf? text.toList⟩

end Declaration

end RowShell
