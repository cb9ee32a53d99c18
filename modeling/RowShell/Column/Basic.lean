/-
Columns.

A column of a table as its declaration and its listing describe it.  Its category is
that of the base type.
-/
import RowShell.Column.Category

namespace RowShell

structure Column where
  /-- The place of the column in its table. -/
  cid : Int
  name : String
  /-- The base type as declared. -/
  base : String
  /-- The greatest number of characters of a stored text. -/
  size : Option Nat
  /-- The declared default as SQL text. -/
  defaultSql : Option String
  notNull : Bool
  primaryKey : Bool
  deriving DecidableEq

namespace Column

def category (column : Column) : Category := .ofDeclared column.base

/-- A column of which only the name, the type and the size are known. -/
def ofType (name base : String) (size : Option Nat) : Column :=
  ⟨0, name, base, size, none, false, false⟩

end Column

end RowShell
