/-
Quoted display of text and bytes.

Inside a displayed structure a text stands in quotes with escapes, so that every
character is visible and the extent of the text is clear.  The quotes are single
unless the text holds a single quote and no double one.  A backslash and the quote in
use are escaped, as are tab, line feed and carriage return by letter and every other
unprintable character by its code in hexadecimal: two digits where that is enough,
else four, else eight.
-/
import RowShell.Text.Printable

namespace RowShell.Text

/-- The quote that encloses a text. -/
def quoteMark (cs : List Char) : Char :=
  if cs.contains '\'' && !cs.contains '"' then '"' else '\''

/-- The last `count` hexadecimal digits of a number. -/
def hexDigits : Nat → Nat → List Char
  | 0, _ => []
  | count + 1, n => hexDigits count (n / 16) ++ [Nat.digitChar (n % 16)]

/-- The escape of a character by its code. -/
def hexEscape (n : Nat) : List Char :=
  if n ≤ 0xff then '\\' :: 'x' :: hexDigits 2 n
  else if n ≤ 0xffff then '\\' :: 'u' :: hexDigits 4 n
  else '\\' :: 'U' :: hexDigits 8 n

/-- A character as it stands between quotes. -/
def escaped (mark : Char) (c : Char) : List Char :=
  if c == mark || c == '\\' then ['\\', c]
  else if c == '\t' then ['\\', 't']
  else if c == '\n' then ['\\', 'n']
  else if c == '\r' then ['\\', 'r']
  else if isPrintable c then [c]
  else hexEscape c.toNat

/-- A text between quotes, with escapes. -/
def inspect (s : String) : String :=
  let cs := s.toList
  let mark := quoteMark cs
  String.ofList (mark :: cs.flatMap (escaped mark) ++ [mark])

/-- A byte as it stands between quotes: as its character if that is a printable one of
ASCII, else escaped. -/
def escapedByte (mark : Char) (byte : UInt8) : List Char :=
  if byte < 0x7f then escaped mark (Char.ofNat byte.toNat) else hexEscape byte.toNat

/-- Bytes between quotes, with escapes and marked as bytes. -/
def inspectBytes (bytes : List UInt8) : String :=
  let mark := quoteMark (bytes.map fun byte => Char.ofNat byte.toNat)
  String.ofList ('b' :: mark :: bytes.flatMap (escapedByte mark) ++ [mark])

end RowShell.Text
