/-
Filters.

A filter is given as a document: a map from column names to the values they have to
equal, or to maps of operators and operands, with the key `$or` for a list of further
documents of which one has to hold.  Reading a document keeps its order and all of it
except operators that do not exist.
-/
import RowShell.Fault
import RowShell.Value.Basic

namespace RowShell

inductive Operator where
  | gt
  | gte
  | lt
  | lte
  | eq
  | ne
  deriving DecidableEq

namespace Operator

def all : List Operator := [.gt, .gte, .lt, .lte, .eq, .ne]

def name : Operator → String
  | .gt => "GT"
  | .gte => "GTE"
  | .lt => "LT"
  | .lte => "LTE"
  | .eq => "EQ"
  | .ne => "NE"

/-- The key of an operator in a document. -/
def key : Operator → String
  | .gt => "$gt"
  | .gte => "$gte"
  | .lt => "$lt"
  | .lte => "$lte"
  | .eq => "$eq"
  | .ne => "$ne"

/-- The SQL comparison that an operator stands for. -/
def sql : Operator → String
  | .gt => ">"
  | .gte => ">="
  | .lt => "<"
  | .lte => "<="
  | .eq => "=="
  | .ne => "!="

def ofKey? (key : String) : Option Operator := all.find? fun op => op.key == key

end Operator

/-- A condition on rows. -/
inductive Clause where
  /-- The column equals the value. -/
  | equals (column : String) (value : Value)
  /-- Every comparison of the column holds. -/
  | compares (column : String) (comparisons : List (Operator × Value))
  /-- In one of the branches every clause holds. -/
  | anyOf (branches : List (List Clause))

/-- Clauses that all have to hold. -/
abbrev Filter := List Clause

namespace Filter

/-- The key of the list of alternatives. -/
def orKey : String := "$or"

/-- The operators and operands of a map; other keys are dropped. -/
def comparisons (entries : List (String × Value)) : List (Operator × Value) :=
  entries.filterMap fun (key, operand) => (Operator.ofKey? key).map (·, operand)

mutual

/-- Reads a document. -/
def ofValue : Value → Except FilterFault Filter
  | .null => .ok []
  | .map entries => ofEntries entries
  | value => .error (.notAMap value.kind)

/-- Reads the entries of a document, one clause for each. -/
def ofEntries : List (String × Value) → Except FilterFault Filter
  | [] => .ok []
  | (key, value) :: rest => do
    let clause ← ofEntry key value
    return clause :: (← ofEntries rest)

/-- Reads the clause of a key and its value. -/
def ofEntry (key : String) : Value → Except FilterFault Clause
  | .list items =>
    if key = orKey then return .anyOf (← ofBranches items) else return .equals key (.list items)
  | .map entries =>
    if key = orKey then .error (.alternativesNotAList (Value.map entries).kind)
    else .ok (.compares key (comparisons entries))
  | value =>
    if key = orKey then .error (.alternativesNotAList value.kind) else .ok (.equals key value)

/-- Reads the documents of a list of alternatives. -/
def ofBranches : List Value → Except FilterFault (List Filter)
  | [] => .ok []
  | document :: rest => do
    let branch ← ofValue document
    return branch :: (← ofBranches rest)

end

/-- Reads a document, refusing it by a fault. -/
def read (document : Value) : Except Fault Filter :=
  (ofValue document).mapError .filter

end Filter

mutual

/-- The columns that a clause names, in order and as often as it names them. -/
def Clause.columns : Clause → List String
  | .equals column _ => [column]
  | .compares column _ => [column]
  | .anyOf branches => branchColumns branches

def Filter.columns : List Clause → List String
  | [] => []
  | clause :: rest => clause.columns ++ Filter.columns rest

def branchColumns : List (List Clause) → List String
  | [] => []
  | branch :: rest => Filter.columns branch ++ branchColumns rest

end

/-- The names of the columns of a filter, sorted, each once. -/
def Filter.columnNames (filter : Filter) : List String :=
  ((Filter.columns filter).mergeSort (· ≤ ·)).eraseReps

end RowShell
