/-
What a shell prints for a literal.

A stored value comes back as JSON, and JSON knows less than SQL: null, numbers and strings.
`Literal.echo?` says what is printed for a literal.  Null is null, a number is printed as it
stands, and a quoted text becomes the string of its content, so the doubling of quotes is
undone.  The content is found by the scan that tells literals from the text around them, and
the number by the reader of query results, so neither is made for the purpose.
-/
import RowShell.Proofs.Column.Literal
import RowShell.Proofs.Number.Numeral
import RowShell.Proofs.Sql.Piece

namespace RowShell.Literal

/-- The JSON value that a shell prints for a literal. -/
def echo? (literal : String) : Option Value :=
  if literal = null then some .null
  else if literal.toList.head? = some '\'' then
    match Sql.pieces? literal.toList with
    | some [.quoted content] => some (.text (String.ofList content))
    | _ => none
  else (Json.read .lenient literal).toOption.filter Value.isNumber

@[simp] theorem echo?_null : echo? null = some .null := if_pos rfl

/-- A quoted text is printed as it was before it was quoted. -/
@[simp] theorem echo?_quote (s : String) : echo? (quote s) = some (.text s) := by
  have hhead : (quote s).toList.head? = some '\'' := by simp [quote]
  have hne : quote s ≠ null := by
    intro heq
    rw [heq] at hhead
    exact absurd hhead (by decide)
  have hpieces : Sql.pieces? (quote s).toList = some [.quoted s.toList] := by
    simpa using Sql.pieces?_quote s (show ([] : List Char).head? ≠ some '\'' by simp)
  rw [echo?, if_neg hne, if_pos hhead, hpieces]
  simp

/-- An integer is printed as an integer. -/
theorem echo?_ofInt {n : Int} (h : ¬ Numeral.IsLong n) :
    echo? (String.ofList (Numeral.ofInt n)) = some (.int n) := by
  obtain ⟨c, rest, hc, heq⟩ := Numeral.exists_ofInt_eq_cons n
  have hhead : (String.ofList (Numeral.ofInt n)).toList.head? = some c := by simp [heq]
  have hne : String.ofList (Numeral.ofInt n) ≠ null := by
    intro hnull
    rw [hnull] at hhead
    cases hhead
    exact absurd hc (by decide)
  have hquote : ¬ (String.ofList (Numeral.ofInt n)).toList.head? = some '\'' := by
    intro hquote
    rw [hhead] at hquote
    cases hquote
    exact absurd hc (by decide)
  rw [echo?, if_neg hne, if_neg hquote, Json.read_ofInt rfl h]
  rfl

end RowShell.Literal
