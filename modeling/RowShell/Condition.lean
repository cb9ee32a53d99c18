/-
Conditions.

A condition is the search condition of a statement before it is written: comparisons
joined by conjunction and disjunction.  A conjunction or disjunction without members is
no condition and is left out; one with several members is put in parentheses inside
another one, and one with a single member of a conjunction stands for that member.
-/

namespace RowShell

inductive Condition where
  /-- A column compared with a literal. -/
  | compare (column comparison literal : String)
  | all (parts : List Condition)
  | any (branches : List Condition)

namespace Condition

/-- A condition as text, which is empty if there is none, and whether it has several
members at its top level. -/
structure Written where
  text : String
  compound : Bool

/-- A written condition as a member of another one. -/
def Written.nested (w : Written) : String := if w.compound then "(" ++ w.text ++ ")" else w.text

/-- The conditions that are not empty. -/
def present (parts : List Written) : List Written := parts.filter fun w => !w.text.isEmpty

def conjunction (parts : List Written) : Written :=
  match present parts with
  | [part] => part
  | parts => ⟨" and ".intercalate (parts.map Written.nested), parts.length > 1⟩

def disjunction (branches : List Written) : Written :=
  let branches := present branches
  ⟨" or ".intercalate (branches.map Written.nested), branches.length > 1⟩

mutual

def write : Condition → Written
  | .compare column comparison literal =>
    ⟨"(" ++ column ++ " " ++ comparison ++ " " ++ literal ++ ")", false⟩
  | .all parts => conjunction (writeEach parts)
  | .any branches => disjunction (writeEach branches)

def writeEach : List Condition → List Written
  | [] => []
  | part :: rest => part.write :: writeEach rest

end

end Condition

end RowShell
