/-
Paths of files.

A path is a root and the names that lead from it to a file.  Empty names and single
dots lead nowhere and are dropped; a name of two dots stays, since what it leads back
from may be a link.  Two slashes at the front are a root of their own, and any other
number of them is one.
-/

namespace RowShell

structure Path where
  root : String
  names : List (List Char)
  deriving DecidableEq

namespace Path

/-- The root of a path that begins with that many slashes. -/
def rootOf (slashes : Nat) : String :=
  if slashes = 0 then "" else if slashes = 2 then "//" else "/"

def ofText (s : String) : Path where
  root := rootOf (s.toList.takeWhile (· == '/')).length
  names := (s.toList.splitOnP (· == '/')).filter fun name => !name.isEmpty && name != ['.']

/-- The text of a path: names joined by slashes, and a dot for the path that leads nowhere. -/
def text (path : Path) : String :=
  let joined := path.root ++ "/".intercalate (path.names.map String.ofList)
  if joined.isEmpty then "." else joined

/-- The part of a name from its last dot on; it is neither the whole name nor a dot alone. -/
def suffixOf (name : List Char) : List Char :=
  let ending := (name.reverse.takeWhile (· != '.')).reverse
  if ending.isEmpty || name.length ≤ ending.length + 1 then [] else '.' :: ending

/-- The suffix of the last name. -/
def suffix (path : Path) : String := String.ofList ((path.names.getLast?.map suffixOf).getD [])

end Path

end RowShell
