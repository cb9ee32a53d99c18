/-
SQL text as pieces.

A shell that scans a script from left to right is outside or inside a literal.  A single
quote opens one; inside, a quote that is written twice is content, and a quote that is
followed by anything else closes.  `pieces?` is that scan: it keeps the characters
outside literals one by one and folds each literal into one piece with its content.

What a later statement says about text "outside literals" it says about the pieces.
`pieces?_append` is what makes such statements compositional: a text whose literals are
closed contributes its own pieces whatever follows, as long as what follows does not
begin with a quote, which would turn a closing quote into a doubled one.
-/
import RowShell.Proofs.Sql.Quoted

namespace RowShell.Sql

/-- A character outside literals, or a literal by its content. -/
inductive Piece where
  | char (c : Char)
  | quoted (content : List Char)
  deriving DecidableEq

mutual

/-- The pieces of a text, unless a literal is left open. -/
def pieces? : List Char → Option (List Piece)
  | [] => some []
  | c :: rest =>
    if c = '\'' then (quoted? rest).map fun read => .quoted read.1 :: read.2
    else (pieces? rest).map (.char c :: ·)

/-- The content of a literal after its opening quote, and the pieces after it. -/
def quoted? : List Char → Option (List Char × List Piece)
  | [] => none
  | c :: rest =>
    if c = '\'' then
      match rest with
      | '\'' :: rest => (quoted? rest).map fun read => ('\'' :: read.1, read.2)
      | rest => (pieces? rest).map ([], ·)
    else (quoted? rest).map fun read => (c :: read.1, read.2)

end

/-! ### Characters outside literals -/

@[simp] theorem pieces?_nil : pieces? [] = some [] := rfl

theorem pieces?_cons {c : Char} (hc : c ≠ '\'') (rest : List Char) :
    pieces? (c :: rest) = (pieces? rest).map (.char c :: ·) := by
  rw [pieces?, if_neg hc]

/-- Text without quotes is its own characters. -/
theorem pieces?_chars : ∀ {cs : List Char}, (∀ c ∈ cs, c ≠ '\'') → ∀ rest : List Char,
    pieces? (cs ++ rest) = (pieces? rest).map (cs.map .char ++ ·) := by
  intro cs
  induction cs with
  | nil => intro _ rest; simp
  | cons c cs ih =>
      intro h rest
      rw [List.cons_append, pieces?_cons (h c (by simp)), ih (fun d hd => h d (by simp [hd]))]
      simp [Option.map_map, Function.comp_def]

/-! ### Literals -/

theorem quoted?_cons {c : Char} (hc : c ≠ '\'') (rest : List Char) :
    quoted? (c :: rest) = (quoted? rest).map fun read => (c :: read.1, read.2) := by
  rw [quoted?.eq_def]
  exact if_neg hc

theorem quoted?_doubled_quote (rest : List Char) :
    quoted? ('\'' :: '\'' :: rest) = (quoted? rest).map fun read => ('\'' :: read.1, read.2) := by
  rw [quoted?, if_pos rfl]

/-- A quote that is not doubled closes the literal. -/
theorem quoted?_close {rest : List Char} (h : rest.head? ≠ some '\'') :
    quoted? ('\'' :: rest) = (pieces? rest).map ([], ·) := by
  rw [quoted?.eq_def]
  refine (if_pos rfl).trans ?_
  split
  · exact absurd rfl h
  · rfl

/-- **Doubling the quotes of a content keeps it together**: it is read back as it was,
and the scan goes on after the closing quote. -/
theorem quoted?_doubled (content : List Char) {rest : List Char} (h : rest.head? ≠ some '\'') :
    quoted? (Literal.doubled content ++ '\'' :: rest) = (pieces? rest).map (content, ·) := by
  induction content with
  | nil => simpa [Literal.doubled] using quoted?_close h
  | cons c content ih =>
      by_cases hc : c = '\''
      · subst hc
        rw [doubled_quote, List.cons_append, List.cons_append, quoted?_doubled_quote, ih]
        simp [Option.map_map, Function.comp_def]
      · rw [doubled_cons hc, List.cons_append, quoted?_cons hc, ih]
        simp [Option.map_map, Function.comp_def]

/-- A quoted text is one piece. -/
theorem pieces?_quote (s : String) {rest : List Char} (h : rest.head? ≠ some '\'') :
    pieces? ((Literal.quote s).toList ++ rest) = (pieces? rest).map (.quoted s.toList :: ·) := by
  have : (Literal.quote s).toList ++ rest = '\'' :: (Literal.doubled s.toList ++ '\'' :: rest) := by
    simp [Literal.quote]
  rw [this, pieces?, if_pos rfl, quoted?_doubled _ h]
  simp [Option.map_map, Function.comp_def]

/-! ### One text after another -/

mutual

theorem pieces?_append {b : List Char} (hb : b.head? ≠ some '\'') :
    ∀ {a : List Char} {ps : List Piece}, pieces? a = some ps →
      pieces? (a ++ b) = (pieces? b).map (ps ++ ·)
  | [], ps, h => by
      cases h
      simp
  | c :: a, ps, h => by
      by_cases hc : c = '\''
      · rw [pieces?, if_pos hc, Option.map_eq_some_iff] at h
        obtain ⟨⟨content, after⟩, hread, rfl⟩ := h
        rw [List.cons_append, pieces?, if_pos hc, quoted?_append hb hread]
        simp [Option.map_map, Function.comp_def]
      · rw [pieces?_cons hc, Option.map_eq_some_iff] at h
        obtain ⟨after, hread, rfl⟩ := h
        rw [List.cons_append, pieces?_cons hc, pieces?_append hb hread]
        simp [Option.map_map, Function.comp_def]

theorem quoted?_append {b : List Char} (hb : b.head? ≠ some '\'') :
    ∀ {a : List Char} {content : List Char} {ps : List Piece}, quoted? a = some (content, ps) →
      quoted? (a ++ b) = (pieces? b).map fun after => (content, ps ++ after)
  | [], _, _, h => by simp [quoted?] at h
  | c :: a, content, ps, h => by
      by_cases hc : c = '\''
      · subst hc
        by_cases ha : a.head? = some '\''
        · obtain ⟨a, rfl⟩ : ∃ more, a = '\'' :: more := by
            cases a <;> simp_all
          rw [quoted?_doubled_quote, Option.map_eq_some_iff] at h
          obtain ⟨⟨content, after⟩, hread, heq⟩ := h
          cases heq
          rw [List.cons_append, List.cons_append, quoted?_doubled_quote, quoted?_append hb hread]
          simp [Option.map_map, Function.comp_def]
        · -- The quote closes the literal, also when `a` ends with it.
          have hab : (a ++ b).head? ≠ some '\'' := by
            cases a with
            | nil => exact hb
            | cons d a => exact ha
          rw [quoted?_close ha, Option.map_eq_some_iff] at h
          obtain ⟨after, hread, heq⟩ := h
          cases heq
          rw [List.cons_append, quoted?_close hab, pieces?_append hb hread]
          simp [Option.map_map, Function.comp_def]
      · rw [quoted?_cons hc, Option.map_eq_some_iff] at h
        obtain ⟨⟨content, after⟩, hread, heq⟩ := h
        cases heq
        rw [List.cons_append, quoted?_cons hc, quoted?_append hb hread]
        simp [Option.map_map, Function.comp_def]

end

end RowShell.Sql
