/-
One quoted literal at a time.

A reader of literals goes up to the first quote that is not followed by another, and takes two
quotes for one on the way.  `literal?` is that reader: it takes one literal off the front of a
text and leaves the rest.

`literal?_eq_some` says that it reads what quoting writes and nothing else, if the rest does not
begin with a quote.  So a literal has one reading, and no part of a doubled quote is ever left.
-/
import RowShell.Column.Literal

namespace RowShell.Sql

open Literal

/-- The content of a literal after its opening quote, and the text after its closing one. -/
def content? : List Char → Option (List Char × List Char)
  | [] => none
  | c :: rest =>
    if c = '\'' then
      match rest with
      | '\'' :: rest => (content? rest).map fun read => ('\'' :: read.1, read.2)
      | rest => some ([], rest)
    else (content? rest).map fun read => (c :: read.1, read.2)

/-- The content of the literal at the front of a text, and the text after it. -/
def literal? : List Char → Option (List Char × List Char)
  | [] => none
  | c :: rest => if c = '\'' then content? rest else none

/-! ### One character or two -/

theorem content?_cons {c : Char} (hc : c ≠ '\'') (rest : List Char) :
    content? (c :: rest) = (content? rest).map fun read => (c :: read.1, read.2) := by
  rw [content?.eq_def]
  exact if_neg hc

theorem content?_doubled_quote (rest : List Char) :
    content? ('\'' :: '\'' :: rest) = (content? rest).map fun read => ('\'' :: read.1, read.2) := by
  rw [content?, if_pos rfl]

theorem content?_close {rest : List Char} (h : rest.head? ≠ some '\'') :
    content? ('\'' :: rest) = some ([], rest) := by
  rw [content?.eq_def]
  refine (if_pos rfl).trans ?_
  split
  · exact absurd rfl h
  · rfl

theorem doubled_quote (content : List Char) :
    doubled ('\'' :: content) = '\'' :: '\'' :: doubled content := rfl

theorem doubled_cons {c : Char} (hc : c ≠ '\'') (content : List Char) :
    doubled (c :: content) = c :: doubled content := by
  simp [doubled, hc]

/-! ### Whole literals -/

theorem content?_doubled (content : List Char) {rest : List Char} (h : rest.head? ≠ some '\'') :
    content? (doubled content ++ '\'' :: rest) = some (content, rest) := by
  induction content with
  | nil => exact content?_close h
  | cons c content ih =>
      by_cases hc : c = '\''
      · subst hc
        rw [doubled_quote, List.cons_append, List.cons_append, content?_doubled_quote, ih]
        rfl
      · rw [doubled_cons hc, List.cons_append, content?_cons hc, ih]
        rfl

/-- What is read was written with its quotes doubled, and the quote that closes it stands alone. -/
theorem eq_of_content? {cs content rest : List Char} (h : content? cs = some (content, rest)) :
    cs = doubled content ++ '\'' :: rest ∧ rest.head? ≠ some '\'' := by
  induction cs using content?.induct generalizing content with
  | case1 => cases h
  | case2 next ih =>
      rw [content?_doubled_quote, Option.map_eq_some_iff] at h
      obtain ⟨⟨more, left⟩, hread, heq⟩ := h
      cases heq
      obtain ⟨rfl, hrest⟩ := ih hread
      exact ⟨rfl, hrest⟩
  | case3 next hnext =>
      have halone : next.head? ≠ some '\'' := by
        intro hhead
        cases next with
        | nil => cases hhead
        | cons d next =>
            cases hhead
            exact hnext next rfl
      rw [content?_close halone] at h
      cases h
      exact ⟨rfl, halone⟩
  | case4 c next hc ih =>
      rw [content?_cons hc, Option.map_eq_some_iff] at h
      obtain ⟨⟨more, left⟩, hread, heq⟩ := h
      cases heq
      obtain ⟨rfl, hrest⟩ := ih hread
      rw [doubled_cons hc]
      exact ⟨rfl, hrest⟩

/-- **Reading takes exactly what quoting writes.** -/
theorem literal?_eq_some {cs content rest : List Char} : literal? cs = some (content, rest) ↔
    cs = (quote (String.ofList content)).toList ++ rest ∧ rest.head? ≠ some '\'' := by
  have hquote : (quote (String.ofList content)).toList ++ rest =
      '\'' :: (doubled content ++ '\'' :: rest) := by
    simp [quote]
  rw [hquote]
  constructor
  · intro h
    cases cs with
    | nil => cases h
    | cons c cs =>
        rw [literal?] at h
        by_cases hc : c = '\''
        · rw [if_pos hc] at h
          obtain ⟨rfl, hrest⟩ := eq_of_content? h
          exact ⟨by rw [hc], hrest⟩
        · rw [if_neg hc] at h
          cases h
  · intro h
    obtain ⟨rfl, hrest⟩ := h
    rw [literal?, if_pos rfl, content?_doubled content hrest]

end RowShell.Sql
