/-
Bytes in base 64.

Four characters stand for three bytes, and a group that is cut short is filled up with
equals signs, which end the text.  Characters that stand for nothing are passed over.
-/

namespace RowShell.Text.Base64

/-- The six bits that a character stands for. -/
def bits? (c : Char) : Option Nat :=
  let n := c.toNat
  if 'A' ≤ c ∧ c ≤ 'Z' then some (n - 0x41)
  else if 'a' ≤ c ∧ c ≤ 'z' then some (n - 0x61 + 26)
  else if '0' ≤ c ∧ c ≤ '9' then some (n - 0x30 + 52)
  else if c = '+' then some 62
  else if c = '/' then some 63
  else none

/-- The whole bytes in the bits of a group. -/
def groupBytes : List Nat → List UInt8
  | a :: b :: rest =>
    .ofNat (4 * a + b / 16) ::
      match rest with
      | [] => []
      | c :: rest =>
        .ofNat (16 * (b % 16) + c / 4) ::
          match rest with
          | [] => []
          | d :: _ => [.ofNat (64 * (c % 4) + d)]
  | _ => []

/-- The bytes of a text after the characters of an open group, and `fill` equals signs
since the last of them. -/
def bytesFrom (group : List Nat) (fill : Nat) : List Char → Option (List UInt8)
  | [] => if group.isEmpty then some [] else none
  | c :: rest =>
    if c == '=' then
      if group.length < 2 then bytesFrom group fill rest
      else if 4 ≤ group.length + (fill + 1) then some (groupBytes group)
      else bytesFrom group (fill + 1) rest
    else
      match bits? c with
      | none => bytesFrom group fill rest
      | some n =>
        if group.length < 3 then bytesFrom (group ++ [n]) 0 rest
        else (bytesFrom [] 0 rest).map (groupBytes (group ++ [n]) ++ ·)

/-- The bytes of a text. -/
def bytes? (cs : List Char) : Option (List UInt8) := bytesFrom [] 0 cs

end RowShell.Text.Base64
