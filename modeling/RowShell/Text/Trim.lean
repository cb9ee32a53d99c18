/-
Trimming and splitting at blanks.

Trimming removes the blanks on both sides; words are the maximal runs without a
blank.  Both are defined on lists of characters, where every later module reads text.
-/
import RowShell.Text.Class

namespace RowShell.Text

/-- The text without the blanks at its front. -/
def trimStart (cs : List Char) : List Char := cs.dropWhile isBlank

/-- The text without the blanks at its end. -/
def trimEnd (cs : List Char) : List Char := (trimStart cs.reverse).reverse

/-- The text without the blanks on both sides. -/
def trim (cs : List Char) : List Char := trimEnd (trimStart cs)

/-- The string without the blanks on both sides. -/
def strip (s : String) : String := String.ofList (trim s.toList)

/-- The maximal runs of characters without a blank, in order. -/
def words (s : String) : List String :=
  ((s.toList.splitOnP isBlank).filter (!·.isEmpty)).map String.ofList

end RowShell.Text
