/-
What a literal can be.

The category of a column decides how a value is written, and the nine categories go
about it in as many ways.  To the text of a statement only the result matters, and there
are three results: null, a number without quotes, and a text between quotes.
`isLiteral_of_outcome` says so of every column and every value that has a literal.

Text is quoted in three of the categories only.  `content?` says which text, and a reader of
literals gets that text back, also where the bound of a column falls on a quote: the text is cut
before its quotes are doubled.

`outcome_literal` opens the function by category, without its log; later modules start
from it rather than from the function itself.
-/
import RowShell.Proofs.Number.Form
import RowShell.Proofs.Outcome
import RowShell.Proofs.Sql.Quoted

namespace RowShell

/-- Null, a number, or a quoted text. -/
inductive IsLiteral : String → Prop
  | null : IsLiteral Literal.null
  | number {s : String} (h : Numeral.IsNumber s.toList) : IsLiteral s
  | quoted (s : String) : IsLiteral (Literal.quote s)

/-- Null or a number. -/
inductive IsBare : String → Prop
  | null : IsBare Literal.null
  | number {s : String} (h : Numeral.IsNumber s.toList) : IsBare s

theorem IsBare.isLiteral {s : String} (h : IsBare s) : IsLiteral s := by
  cases h with
  | null => exact .null
  | number h => exact .number h

/-- What is not quoted does not begin with a quote. -/
theorem IsBare.head?_ne {s : String} (h : IsBare s) : s.toList.head? ≠ some '\'' := by
  cases h with
  | null => decide
  | number h =>
      intro hhead
      exact absurd (h.isNumberChar _ (List.mem_of_head? hhead)) (by decide)

namespace Column

/-- The outcome of a literal by the category of the column. -/
theorem outcome_literal (column : Column) {value : Value} (hv : value ≠ .null) :
    (column.literal value).outcome = match column.category with
      | .string => value.storedText.map fun text => Literal.quote (column.truncated text)
      | .numeric | .typeless => looseLiteral value
      | .int => wholeLiteral value
      | .real => value.leadingFloat?.map Literal.ofBinary64?
      | .blob => .ok Literal.null
      | .boolean => .ok (if value.isTruthy then "1" else "0")
      | .datetime =>
        match value.timestamp? with
        | some t => timestampLiteral t
        | none => value.inspect.map fun _ => Literal.null
      | .unclassified => value.inspect.map fun _ => Literal.null := by
  unfold literal
  split
  · exact absurd rfl hv
  · cases column.category with
    | string => cases value.storedText <;> simp
    | real => cases value.leadingFloat? <;> simp
    | datetime =>
        cases ht : value.timestamp? with
        | some t => rfl
        | none => cases value.inspect <;> simp <;> rfl
    | unclassified => cases value.inspect <;> simp <;> rfl
    | numeric => rfl
    | typeless => rfl
    | int => rfl
    | blob => rfl
    | boolean => rfl

/-! ### Without quotes -/

theorem isBare_numeral {n : Int} {s : String} (h : Value.numeral n = .ok s) : IsBare s := by
  unfold Value.numeral Numeral.text? at h
  split at h
  · next text htext =>
      split at htext
      · cases htext
      · cases htext
        cases h
        refine .number ?_
        rw [String.toList_ofList]
        exact Numeral.isNumber_ofInt n
  · cases h

theorem isBare_ofBinary64 (x : Binary64) : IsBare (Literal.ofBinary64 x) := by
  unfold Literal.ofBinary64
  split
  · next h => exact .number (Binary64.isNumber_numberText h)
  · exact .null

theorem isBare_ofBinary64? (x : Option Binary64) : IsBare (Literal.ofBinary64? x) := by
  cases x with
  | none => exact .null
  | some x => exact isBare_ofBinary64 x

theorem isBare_wholeLiteral {value : Value} {s : String} (h : wholeLiteral value = .ok s) :
    IsBare s := by
  unfold wholeLiteral at h
  split at h
  · exact isBare_numeral h
  · split at h
    · exact isBare_numeral h
    · cases h
      exact .null
  · obtain ⟨x, -, heq⟩ := Outcome.bind_eq_ok.mp h
    cases heq
    exact isBare_ofBinary64? x

theorem isBare_timestampLiteral {t : Timestamp} {s : String} (h : timestampLiteral t = .ok s) :
    IsBare s := by
  unfold timestampLiteral at h
  split at h
  · exact isBare_numeral h
  · cases h

theorem isBare_looseLiteral {value : Value} {s : String} (hnumber : value.isNumber = true)
    (h : looseLiteral value = .ok s) : IsBare s := by
  cases value with
  | int n =>
      rw [looseLiteral] at h
      exact isBare_numeral h
  | float x =>
      cases h
      exact isBare_ofBinary64 x
  | _ => cases hnumber

/-! ### With quotes -/

/-- The content of the quoted text by which a column takes a value.  A column of text takes the
first characters of the stored text, as many as its size allows; a column of numbers or of no type
takes what is not a number by its display. -/
def content? (column : Column) (value : Value) : Option (List Char) :=
  match value with
  | .null => none
  | value =>
    match column.category with
    | .string => value.storedText.toOption.map fun text =>
      match column.size with
      | none => text.toList
      | some size => text.toList.take size
    | .numeric | .typeless =>
      if value.isNumber then none else value.display.toOption.map String.toList
    | _ => none

theorem content?_eq (column : Column) {value : Value} (hv : value ≠ .null) :
    column.content? value = match column.category with
      | .string => value.storedText.toOption.map fun text => (column.truncated text).toList
      | .numeric | .typeless =>
        if value.isNumber then none else value.display.toOption.map String.toList
      | _ => none := by
  unfold content? truncated
  split
  · exact absurd rfl hv
  · cases column.size <;> simp

theorem category_of_content? {column : Column} {value : Value} {content : List Char}
    (h : column.content? value = some content) :
    column.category = .string ∨ column.category = .numeric ∨ column.category = .typeless := by
  unfold content? at h
  split at h
  · cases h
  · split at h
    · next hcategory => exact .inl hcategory
    · next hcategory => exact .inr (.inl hcategory)
    · next hcategory => exact .inr (.inr hcategory)
    · cases h

/-- Without quotes if nothing is to be quoted, and else the quoted text. -/
def IsLiteralOf (content : Option (List Char)) (s : String) : Prop :=
  content.elim (IsBare s) fun content => s = Literal.quote (String.ofList content)

/-- A number is written as it is, and anything else by its display. -/
theorem isLiteralOf_looseLiteral {value : Value} {s : String} (h : looseLiteral value = .ok s) :
    IsLiteralOf (if value.isNumber then none else value.display.toOption.map String.toList) s := by
  by_cases hnumber : value.isNumber = true
  · rw [if_pos hnumber]
    exact isBare_looseLiteral hnumber h
  · rw [if_neg hnumber]
    have hdisplay : value.display.map Literal.quote = .ok s := by
      rw [← h]
      unfold looseLiteral
      split
      · exact absurd rfl hnumber
      · exact absurd rfl hnumber
      · cases value.display <;> rfl
    obtain ⟨text, htext, rfl⟩ := Outcome.map_eq_ok.mp hdisplay
    rw [htext]
    exact congrArg Literal.quote String.ofList_toList.symm

/-- **A literal is without quotes, or it is the quoted text of the value.** -/
theorem isLiteralOf_of_outcome {column : Column} {value : Value} {s : String}
    (h : (column.literal value).outcome = .ok s) : IsLiteralOf (column.content? value) s := by
  by_cases hv : value = .null
  · subst hv
    cases h
    exact IsBare.null
  · rw [outcome_literal column hv] at h
    rw [content?_eq column hv]
    generalize column.category = category at h ⊢
    cases category with
    | string =>
        obtain ⟨text, htext, rfl⟩ := Outcome.map_eq_ok.mp h
        rw [htext]
        exact congrArg Literal.quote String.ofList_toList.symm
    | numeric => exact isLiteralOf_looseLiteral h
    | typeless => exact isLiteralOf_looseLiteral h
    | int => exact isBare_wholeLiteral h
    | real =>
        obtain ⟨x, -, rfl⟩ := Outcome.map_eq_ok.mp h
        exact isBare_ofBinary64? x
    | blob =>
        cases h
        exact IsBare.null
    | boolean =>
        cases h
        show IsBare _
        split
        · exact .number (Numeral.isNumber_ofInt 1)
        · exact .number (Numeral.isNumber_ofInt 0)
    | datetime =>
        show IsBare s
        dsimp only at h
        split at h
        · exact isBare_timestampLiteral h
        · obtain ⟨-, -, rfl⟩ := Outcome.map_eq_ok.mp h
          exact .null
    | unclassified =>
        obtain ⟨-, -, rfl⟩ := Outcome.map_eq_ok.mp h
        exact IsBare.null

/-- **Whatever the column and the value, a literal is null, a number or a quoted text.** -/
theorem isLiteral_of_outcome {column : Column} {value : Value} {s : String}
    (h : (column.literal value).outcome = .ok s) : IsLiteral s := by
  have hliteral := isLiteralOf_of_outcome h
  cases hcontent : column.content? value with
  | none =>
      rw [hcontent] at hliteral
      exact hliteral.isLiteral
  | some content =>
      rw [hcontent] at hliteral
      rw [hliteral]
      exact .quoted _

/-! ### Reading literals -/

/-- **A literal is null, a number or one quoted text.**  It begins with a quote exactly if the
column quotes the value, and a reader of literals then reads it whole, whatever follows, and gets
the content that is quoted. -/
theorem literal_reads {column : Column} {value : Value} {s : String}
    (h : (column.literal value).outcome = .ok s) :
    (s = "null" ∨ Numeral.IsNumber s.toList ∨ s.toList.head? = some '\'') ∧
      (s.toList.head? = some '\'' → column.category = .string ∨ column.category = .numeric ∨
        column.category = .typeless) ∧
      (s.toList.head? = some '\'' ↔ ∃ content, column.content? value = some content) ∧
      ∀ content, column.content? value = some content →
        ∀ rest : List Char, rest.head? ≠ some '\'' →
          Sql.literal? (s.toList ++ rest) = some (content, rest) := by
  have hliteral := isLiteralOf_of_outcome h
  cases hcontent : column.content? value with
  | none =>
      rw [hcontent] at hliteral
      have hbare : IsBare s := hliteral
      have hhead := hbare.head?_ne
      refine ⟨?_, fun hquote => absurd hquote hhead, iff_of_false hhead nofun, nofun⟩
      cases hbare with
      | null => exact .inl rfl
      | number h => exact .inr (.inl h)
  | some content =>
      rw [hcontent] at hliteral
      have hquoted : s = Literal.quote (String.ofList content) := hliteral
      have hhead : s.toList.head? = some '\'' := by simp [hquoted, Literal.quote]
      refine ⟨.inr (.inr hhead), fun _ => category_of_content? hcontent,
        iff_of_true hhead ⟨content, rfl⟩, ?_⟩
      intro other hother rest hrest
      cases hother
      exact Sql.literal?_eq_some.mpr ⟨by rw [hquoted], hrest⟩

/-- The bound falls on the quote. -/
theorem literal_reads_bounded :
    let column := ofType "name" "VARCHAR" (some 3)
    let value := Value.text "it's"
    (column.literal value).outcome = .ok "'it'''" ∧
      column.content? value = some "it'".toList ∧ " AND".toList.head? ≠ some '\'' ∧
      Sql.literal? ("'it'''".toList ++ " AND".toList) = some ("it'".toList, " AND".toList) := by
  intro column value
  have hliteral : (column.literal value).outcome = .ok "'it'''" := by decide
  have hcontent : column.content? value = some "it'".toList := by decide
  have hrest : " AND".toList.head? ≠ some '\'' := by decide
  exact ⟨hliteral, hcontent, hrest, (literal_reads hliteral).2.2.2 _ hcontent _ hrest⟩

end Column

end RowShell
