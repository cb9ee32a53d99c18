/-
Closed text.

A statement is put together from names, literals, conditions and declared defaults.  It
stays one statement if each of these is closed: its literals are, its parentheses are,
and outside literals there is neither a semicolon nor the beginning of a comment.  All of
that is said about pieces, so the content of a literal never counts.

Closed texts may not stand side by side, since a quote after a closing quote would go on
with the literal, and two signs may begin a comment.  A statement puts a mark between any
two of them, or parentheses around one, and `Closed.mark` and `Closed.paren` say that
this is enough.
-/
import Mathlib.Data.List.Chain
import RowShell.Proofs.Column.Literal
import RowShell.Proofs.Sql.Search

namespace RowShell.Sql

/-! ### What a shell finds outside literals -/

/-- The number of open parentheses after a piece; nothing if it closes one that is not
open. -/
def Piece.nesting? : Nat → Piece → Option Nat
  | n, .char '(' => some (n + 1)
  | 0, .char ')' => none
  | n + 1, .char ')' => some n
  | n, _ => some n

/-- The number of open parentheses after pieces. -/
def nesting? (n : Nat) (ps : List Piece) : Option Nat := ps.foldlM Piece.nesting? n

/-- Two characters that begin a comment. -/
def opensComment (c d : Char) : Bool := (c == '-' && d == '-') || (c == '/' && d == '*')

/-- Two pieces of which the second does not make a comment begin. -/
def Adjoins : Piece → Piece → Prop
  | .char c, .char d => opensComment c d = false
  | _, _ => True

structure IsClosed (ps : List Piece) : Prop where
  balanced : nesting? 0 ps = some 0
  unended : Piece.char ';' ∉ ps
  uncommented : ps.IsChain Adjoins

/-- A text that is no more than a part of a statement. -/
def Closed (text : List Char) : Prop := ∃ ps, pieces? text = some ps ∧ IsClosed ps

/-- One statement: outside literals the only semicolon is the last character, no comment
begins, and no parenthesis is closed that is not open or open that is not closed. -/
def IsStatement (text : List Char) : Prop :=
  ∃ ps, pieces? text = some (ps ++ [.char ';']) ∧ Piece.char ';' ∉ ps ∧
    (ps ++ [Piece.char ';']).IsChain Adjoins ∧ nesting? 0 (ps ++ [.char ';']) = some 0

/-! ### Nesting -/

theorem nesting?_cons (n : Nat) (p : Piece) (ps : List Piece) :
    nesting? n (p :: ps) = (p.nesting? n).bind (nesting? · ps) := rfl

theorem nesting?_append (n : Nat) (ps qs : List Piece) :
    nesting? n (ps ++ qs) = (nesting? n ps).bind (nesting? · qs) := List.foldlM_append

/-- A piece that is no parenthesis changes nothing. -/
theorem Piece.nesting?_of_ne {p : Piece} (hopening : p ≠ .char '(') (hclosing : p ≠ .char ')')
    (n : Nat) : p.nesting? n = some n := by
  rw [Piece.nesting?.eq_def]
  split
  · exact absurd rfl hopening
  · exact absurd rfl hclosing
  · exact absurd rfl hclosing
  · rfl

theorem Piece.nesting?_add {p : Piece} {n m : Nat} (h : p.nesting? n = some m) (k : Nat) :
    p.nesting? (n + k) = some (m + k) := by
  by_cases hopening : p = .char '('
  · subst hopening
    cases h
    rw [Piece.nesting?, Nat.add_right_comm]
  · by_cases hclosing : p = .char ')'
    · subst hclosing
      cases n with
      | zero => cases h
      | succ n =>
          cases h
          rw [Nat.add_right_comm]
          rfl
    · rw [Piece.nesting?_of_ne hopening hclosing] at h ⊢
      cases h
      rfl

/-- Parentheses around pieces make no difference to them. -/
theorem nesting?_add {ps : List Piece} {n m : Nat} (h : nesting? n ps = some m) (k : Nat) :
    nesting? (n + k) ps = some (m + k) := by
  induction ps generalizing n with
  | nil =>
      cases h
      rfl
  | cons p ps ih =>
      rw [nesting?_cons, Option.bind_eq_some_iff] at h
      obtain ⟨l, hp, hps⟩ := h
      rw [nesting?_cons, Piece.nesting?_add hp, Option.bind_some]
      exact ih hps

/-! ### Marks between closed pieces -/

/-- The characters that keep closed texts apart. -/
def marks : List Char := [' ', ',', '(', ')', ';']

theorem adjoins_mark {c : Char} (hc : c ∈ marks) (p : Piece) :
    Adjoins p (.char c) ∧ Adjoins (.char c) p := by
  have hcomment : ∀ d, opensComment d c = false ∧ opensComment c d = false := by
    intro d
    simp only [marks, List.mem_cons, List.not_mem_nil, or_false] at hc
    rcases hc with rfl | rfl | rfl | rfl | rfl <;> simp [opensComment]
  cases p with
  | char d => exact hcomment d
  | quoted content => exact ⟨trivial, trivial⟩

/-- No comment begins at a mark. -/
theorem uncommented_mark {ps qs : List Piece} (hps : ps.IsChain Adjoins)
    (hqs : qs.IsChain Adjoins) {c : Char} (hc : c ∈ marks) :
    (ps ++ .char c :: qs).IsChain Adjoins := by
  refine List.isChain_append.mpr ⟨hps, List.isChain_cons.mpr ⟨?_, hqs⟩, ?_⟩
  · intro q _
    exact (adjoins_mark hc q).2
  · intro p _ q hq
    cases hq
    exact (adjoins_mark hc p).1

theorem isClosed_nil : IsClosed [] := ⟨rfl, nofun, .nil⟩

/-- A blank or a comma between closed pieces. -/
theorem IsClosed.mark {ps qs : List Piece} (hps : IsClosed ps) (hqs : IsClosed qs) {c : Char}
    (hc : c = ' ' ∨ c = ',') : IsClosed (ps ++ .char c :: qs) := by
  have hmarks : c ∈ marks := by rcases hc with rfl | rfl <;> decide
  have hneutral : Piece.nesting? 0 (.char c) = some 0 := by rcases hc with rfl | rfl <;> rfl
  refine ⟨?_, ?_, uncommented_mark hps.uncommented hqs.uncommented hmarks⟩
  · rw [nesting?_append, hps.balanced, Option.bind_some, nesting?_cons, hneutral,
      Option.bind_some, hqs.balanced]
  · rw [List.mem_append, List.mem_cons]
    intro h
    rcases h with h | h | h
    · exact hps.unended h
    · rcases hc with rfl | rfl <;> exact absurd h (by decide)
    · exact hqs.unended h

/-- Parentheses around the second of two closed texts. -/
theorem IsClosed.paren {ps qs : List Piece} (hps : IsClosed ps) (hqs : IsClosed qs) :
    IsClosed (ps ++ .char '(' :: (qs ++ [.char ')'])) := by
  refine ⟨?_, ?_, ?_⟩
  · rw [nesting?_append, hps.balanced, Option.bind_some, nesting?_cons, Piece.nesting?,
      Option.bind_some, nesting?_append, nesting?_add hqs.balanced 1]
    rfl
  · simp only [List.mem_append, List.mem_cons, List.not_mem_nil, or_false]
    intro h
    rcases h with h | h | h | h
    · exact hps.unended h
    · exact absurd h (by decide)
    · exact hqs.unended h
    · exact absurd h (by decide)
  · refine uncommented_mark hps.uncommented ?_ (by decide)
    exact uncommented_mark hqs.uncommented .nil (by decide)

/-! ### Closed texts -/

theorem closed_nil : Closed [] := ⟨[], rfl, isClosed_nil⟩

theorem Closed.mark {a b : List Char} (ha : Closed a) (hb : Closed b) {c : Char}
    (hc : c = ' ' ∨ c = ',') : Closed (a ++ c :: b) := by
  obtain ⟨ps, hps, hclosed⟩ := ha
  obtain ⟨qs, hqs, hclosed'⟩ := hb
  have hquote : c ≠ '\'' := by rcases hc with rfl | rfl <;> decide
  refine ⟨ps ++ .char c :: qs, ?_, hclosed.mark hclosed' hc⟩
  rw [pieces?_append (by simpa using hquote) hps, pieces?_cons hquote, hqs]
  rfl

theorem Closed.paren {a b : List Char} (ha : Closed a) (hb : Closed b) :
    Closed (a ++ '(' :: (b ++ [')'])) := by
  obtain ⟨ps, hps, hclosed⟩ := ha
  obtain ⟨qs, hqs, hclosed'⟩ := hb
  refine ⟨_, ?_, hclosed.paren hclosed'⟩
  rw [pieces?_append (by simp) hps, pieces?_cons (by decide), pieces?_append (by decide) hqs,
    pieces?_cons (by decide)]
  rfl

/-- Closed text with a semicolon is a statement. -/
theorem Closed.isStatement {text : List Char} (h : Closed text) : IsStatement (text ++ [';']) := by
  obtain ⟨ps, hps, hclosed⟩ := h
  have hmark : ';' ∈ marks := by decide
  refine ⟨ps, ?_, hclosed.unended, uncommented_mark hclosed.uncommented .nil hmark, ?_⟩
  · rw [pieces?_append (by decide) hps, pieces?_cons (by decide)]
    rfl
  · rw [nesting?_append, hclosed.balanced]
    rfl

/-! ### Text without literals -/

/-- A character that means nothing outside literals except as part of a comment. -/
def isPlainChar (c : Char) : Bool := !(['\'', '(', ')', ';'].contains c)

/-- A character that also begins no comment. -/
def isCalm (c : Char) : Bool := !(['\'', '(', ')', ';', '-', '/'].contains c)

/-- Plain characters of which no two begin a comment are closed. -/
theorem closed_chars {cs : List Char} (hplain : ∀ c ∈ cs, isPlainChar c = true)
    (hcomment : cs.IsChain fun c d => opensComment c d = false) : Closed cs := by
  have hne : ∀ c ∈ cs, c ≠ '\'' ∧ c ≠ '(' ∧ c ≠ ')' ∧ c ≠ ';' := by
    intro c hc
    have h := hplain c hc
    refine ⟨?_, ?_, ?_, ?_⟩ <;> rintro rfl <;> exact absurd h (by decide)
  refine ⟨cs.map Piece.char, ?_, ?_, ?_, ?_⟩
  · have h := pieces?_chars (fun c hc => (hne c hc).1) []
    simpa using h
  · clear hplain hcomment
    induction cs with
    | nil => rfl
    | cons c cs ih =>
        have hc := hne c (by simp)
        rw [List.map_cons, nesting?_cons,
          Piece.nesting?_of_ne (by simpa using hc.2.1) (by simpa using hc.2.2.1), Option.bind_some]
        exact ih fun d hd => hne d (by simp [hd])
  · intro hmem
    obtain ⟨c, hc, heq⟩ := List.mem_map.mp hmem
    cases heq
    exact (hne _ hc).2.2.2 rfl
  · exact List.isChain_map_of_isChain Piece.char (fun c d h => h) hcomment

theorem opensComment_of_isCalm {c : Char} (hc : isCalm c = true) (d : Char) :
    opensComment c d = false := by
  have hminus : c ≠ '-' := by
    intro heq
    subst heq
    exact absurd hc (by decide)
  have hslash : c ≠ '/' := by
    intro heq
    subst heq
    exact absurd hc (by decide)
  simp [opensComment, hminus, hslash]

/-- No comment begins among calm characters and where other text follows them. -/
theorem uncommented_calm_append {cs ds : List Char} (hcs : ∀ c ∈ cs, isCalm c = true)
    (hds : ds.IsChain fun c d => opensComment c d = false) :
    (cs ++ ds).IsChain fun c d => opensComment c d = false := by
  induction cs with
  | nil => exact hds
  | cons c cs ih =>
      refine List.isChain_cons.mpr ⟨?_, ih fun d hd => hcs d (by simp [hd])⟩
      intro d _
      exact opensComment_of_isCalm (hcs c (by simp)) d

theorem closed_calm {cs : List Char} (hcs : cs.all isCalm = true) : Closed cs := by
  have hcalm : ∀ c ∈ cs, isCalm c = true := List.all_eq_true.mp hcs
  have hcomment := uncommented_calm_append hcalm .nil
  rw [List.append_nil] at hcomment
  exact closed_chars (fun c hc => not_contains_of (by decide) (hcalm c hc)) hcomment

theorem closed_name {s : String} (h : IsName s) : Closed s.toList :=
  closed_calm (List.all_eq_true.mpr fun c hc =>
    not_contains_of (by decide) (List.all_eq_true.mp h.2 c hc))

/-! ### Literals -/

theorem isCalm_of_isAsciiDigit {c : Char} (hc : Text.isAsciiDigit c = true) : isCalm c = true :=
  not_contains_of (by decide) hc

/-- The signs of a number stand before digits, so two of them never meet. -/
theorem uncommented_digits {c : Char} {digits rest : List Char} (hdigits : Numeral.IsDigits digits)
    (hrest : (digits ++ rest).IsChain fun c d => opensComment c d = false) :
    (c :: (digits ++ rest)).IsChain fun c d => opensComment c d = false := by
  refine List.isChain_cons.mpr ⟨?_, hrest⟩
  intro d hd
  obtain ⟨first, others, rfl⟩ := List.exists_cons_of_ne_nil hdigits.1
  cases hd
  have hdigit := hdigits.2 d (by simp)
  have hminus : d ≠ '-' := by
    intro heq
    subst heq
    exact absurd hdigit (by decide)
  have hstar : d ≠ '*' := by
    intro heq
    subst heq
    exact absurd hdigit (by decide)
  simp [opensComment, hminus, hstar]

theorem uncommented_unsigned {cs : List Char} (h : Numeral.IsUnsigned cs) :
    ∃ digits rest, Numeral.IsDigits digits ∧ cs = digits ++ rest ∧
      cs.IsChain fun c d => opensComment c d = false := by
  obtain ⟨whole, fraction, exponent, hwhole, hfraction, hexponent, rfl⟩ := h
  refine ⟨whole, fraction ++ exponent, hwhole, List.append_assoc .., ?_⟩
  have hexponent' : exponent.IsChain fun c d => opensComment c d = false := by
    rcases hexponent with rfl | ⟨sign, digits, hsign, hdigits, rfl⟩
    · exact .nil
    · have hchain := uncommented_calm_append (fun c hc => isCalm_of_isAsciiDigit (hdigits.2 c hc)) .nil
      refine List.isChain_cons.mpr ⟨?_, ?_⟩
      · intro d _
        exact opensComment_of_isCalm (by decide) d
      · have h := uncommented_digits (c := sign) hdigits hchain
        rwa [List.append_nil] at h
  refine uncommented_calm_append ?_ hexponent'
  intro c hc
  rcases List.mem_append.mp hc with hc | hc
  · exact isCalm_of_isAsciiDigit (hwhole.2 c hc)
  · rcases hfraction with rfl | ⟨digits, hdigits, rfl⟩
    · cases hc
    · rcases List.mem_cons.mp hc with rfl | hc
      · decide
      · exact isCalm_of_isAsciiDigit (hdigits.2 c hc)

theorem closed_number {cs : List Char} (h : Numeral.IsNumber cs) : Closed cs := by
  refine closed_chars (fun c hc => not_contains_of (by decide) (h.isNumberChar c hc)) ?_
  rcases h with h | ⟨rest, h, rfl⟩
  · obtain ⟨-, -, -, -, hchain⟩ := uncommented_unsigned h
    exact hchain
  · obtain ⟨digits, rest, hdigits, rfl, hchain⟩ := uncommented_unsigned h
    exact uncommented_digits hdigits hchain

theorem closed_quote (s : String) : Closed (Literal.quote s).toList := by
  refine ⟨[.quoted s.toList], ?_, ?_⟩
  · have h : pieces? ((Literal.quote s).toList ++ []) = _ := pieces?_quote s (by simp)
    simpa using h
  · exact ⟨rfl, by simp, .singleton _⟩

theorem closed_literal {s : String} (h : IsLiteral s) : Closed s.toList := by
  cases h with
  | null => exact closed_calm (by decide)
  | number h => exact closed_number h
  | quoted s => exact closed_quote s

end RowShell.Sql
