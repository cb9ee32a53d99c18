/-
Written conditions read back.

A condition is written with parentheses around a member only where the member has
several members itself, and nothing is written for a condition without members.  The
flag `compound` decides where parentheses go, so it is what has to be right: a text that
is not compound has to be an operand by itself, and any other one a whole condition.
`Spells` says that of a written condition, and `spells_write` that every condition is
written so, as the condition that is left when it is pruned.

The texts are followed token by token.  `Lexes` is the statement about a part of a text
that can be put together: the part gives its tokens whatever comes after it.
-/
import RowShell.Proofs.Column.Literal
import RowShell.Proofs.Sql.Search

namespace RowShell

namespace Sql

/-! ### Parts of a text -/

/-- The part gives these tokens before any other text. -/
def Lexes (part : List Char) (ts : List Token) : Prop :=
  ∀ rest, tokens? (part ++ rest) = (tokens? rest).map (ts ++ ·)

theorem Lexes.append {a b : List Char} {ts us : List Token} (ha : Lexes a ts) (hb : Lexes b us) :
    Lexes (a ++ b) (ts ++ us) := by
  intro rest
  rw [List.append_assoc, ha, hb]
  simp [Option.map_map, Function.comp_def]

theorem Lexes.tokens? {text : List Char} {ts : List Token} (h : Lexes text ts) :
    tokens? text = some ts := by
  have := h []
  rw [List.append_nil] at this
  simpa [Sql.tokens?, tokensFrom, Token.ofWord] using this

/-- The characters of a word are held until it ends. -/
theorem tokensFrom_word {w : List Char} (hw : ∀ c ∈ w, isWordChar c = true) :
    ∀ (held : List Char) (ps : List Piece),
      tokensFrom held (w.map .char ++ ps) = tokensFrom (held ++ w) ps := by
  induction w with
  | nil => simp
  | cons c w ih =>
      intro held ps
      rw [List.map_cons, List.cons_append, tokensFrom, if_pos (hw c (by simp)),
        ih (fun d hd => hw d (by simp [hd]))]
      simp

theorem ne_quote_of_isWordChar {c : Char} (h : isWordChar c = true) : c ≠ '\'' := by
  intro heq
  subst heq
  exact absurd h (by decide)

/-- A word, which may have no characters, up to a character that ends it. -/
theorem lexes_word {w : List Char} (hw : ∀ c ∈ w, isWordChar c = true) {c : Char}
    (hc : isWordChar c = false) (hquote : c ≠ '\'') :
    Lexes (w ++ [c]) (Token.ofWord w ++ Token.ofMark c) := by
  intro rest
  rw [tokens?, List.append_assoc, pieces?_chars fun d hd => ne_quote_of_isWordChar (hw d hd),
    List.singleton_append, pieces?_cons hquote, tokens?]
  simp only [Option.map_map, Function.comp_def]
  congr 1
  funext ps
  rw [tokensFrom_word hw, List.nil_append, tokensFrom, if_neg (by simp [hc])]

theorem lexes_mark {c : Char} (hc : isWordChar c = false) (hquote : c ≠ '\'') :
    Lexes [c] (Token.ofMark c) :=
  lexes_word (w := []) (by simp) hc hquote

/-- A quoted text up to a closing parenthesis. -/
theorem lexes_quote_closing (s : String) :
    Lexes ((Literal.quote s).toList ++ [')']) [.quoted s.toList, .closing] := by
  intro rest
  rw [tokens?, List.append_assoc, pieces?_quote s (by simp), List.singleton_append,
    pieces?_cons (by decide), tokens?]
  have hclosing : isWordChar ')' = false := by decide
  simp [Option.map_map, Function.comp_def, tokensFrom, Token.ofWord, Token.ofMark, hclosing]

/-! ### Comparisons -/

theorem isWordChar_of_isName {s : String} (h : IsName s) : ∀ c ∈ s.toList, isWordChar c = true :=
  fun c hc => not_contains_of (by decide) (List.all_eq_true.mp h.2 c hc)

theorem isWordChar_of_isNumber {cs : List Char} (h : Numeral.IsNumber cs) :
    ∀ c ∈ cs, isWordChar c = true :=
  fun c hc => not_contains_of (by decide) (h.isNumberChar c hc)

/-- A literal up to a closing parenthesis is one token that stands for it. -/
theorem lexes_literal {literal : String} (h : IsLiteral literal) :
    ∃ token : Token, token.literal? = some literal ∧
      Lexes (literal.toList ++ [')']) [token, .closing] := by
  have word : ∀ w : List Char, w ≠ [] → (∀ c ∈ w, isWordChar c = true) →
      Lexes (w ++ [')']) [.word w, .closing] := by
    intro w hne hw
    have := lexes_word hw (show isWordChar ')' = false by decide) (by decide)
    rwa [Token.ofWord, if_neg hne] at this
  cases h with
  | null => exact ⟨.word Literal.null.toList, by simp [Token.literal?],
      word _ (by decide) (List.all_eq_true.mp (by decide))⟩
  | number h => exact ⟨.word literal.toList, by simp [Token.literal?],
      word _ h.ne_nil (isWordChar_of_isNumber h)⟩
  | quoted s => exact ⟨.quoted s.toList, by simp [Token.literal?], lexes_quote_closing s⟩

end Sql

namespace Condition

open Sql

mutual

/-- Every comparison is of a name with a literal. -/
def Plain : Condition → Prop
  | .compare column sign literal =>
    IsName column ∧ sign ∈ comparisonSigns ∧ IsLiteral literal
  | .all parts => PlainEach parts
  | .any branches => PlainEach branches

def PlainEach : List Condition → Prop
  | [] => True
  | part :: rest => part.Plain ∧ PlainEach rest

end

/-- A written comparison is an operand. -/
theorem reads_compare {column sign literal : String}
    (h : (Condition.compare column sign literal).Plain) :
    ∃ ts, Lexes (Condition.compare column sign literal).write.text.toList ts ∧
      Reads .operand ts [.compare column sign literal] := by
  obtain ⟨hname, hsign, hliteral⟩ := h
  obtain ⟨token, htoken, hlexes⟩ := lexes_literal hliteral
  have hcompare : comparison? column.toList sign.toList token =
      some (.compare column sign literal) := by
    simp [comparison?, hname, hsign, htoken]
  have hsignWord : ∀ s ∈ comparisonSigns, s.toList ≠ [] ∧ s.toList.all isWordChar = true := by
    decide
  have hblank : isWordChar ' ' = false := by decide
  have hcolumn := lexes_word (isWordChar_of_isName hname) hblank (by decide)
  have hsign' := lexes_word (List.all_eq_true.mp (hsignWord sign hsign).2) hblank (by decide)
  rw [Token.ofWord, if_neg hname.1] at hcolumn
  rw [Token.ofWord, if_neg (hsignWord sign hsign).1] at hsign'
  have hopening := lexes_mark (show isWordChar '(' = false by decide) (by decide)
  refine ⟨_, ?_, .comparison hcompare⟩
  have hall := ((hopening.append hcolumn).append hsign').append hlexes
  simpa [write, Token.ofMark] using hall

/-! ### The condition that is left -/

/-- Members joined to one condition, if there are any. -/
def joined? (join : List Condition → Condition) : List Condition → Option Condition
  | [] => none
  | members => some (joined join members)

mutual

/-- A condition without empty conjunctions and disjunctions and without such of a single
member; nothing if no comparison is left. -/
def pruned : Condition → Option Condition
  | .compare column sign literal => some (.compare column sign literal)
  | .all parts => joined? .all (prunedEach parts)
  | .any branches => joined? .any (prunedEach branches)

/-- What is left of the members of a condition. -/
def prunedEach : List Condition → List Condition
  | [] => []
  | part :: rest => part.pruned.toList ++ prunedEach rest

end

/-! ### Members -/

/-- The text is read as the condition: as an operand if it is not compound. -/
def Spells (w : Written) (t : Condition) : Prop :=
  w.text ≠ "" ∧
    ∃ ts, Lexes w.text.toList ts ∧ Reads (if w.compound then .condition else .operand) ts [t]

theorem nested_ne_empty {w : Written} (h : w.text ≠ "") : w.nested ≠ "" := by
  unfold Written.nested
  split
  · simp
  · exact h

/-- As a member of another condition a text is an operand. -/
theorem Spells.nested {w : Written} {t : Condition} (h : Spells w t) :
    ∃ ts, Lexes w.nested.toList ts ∧ Reads .operand ts [t] := by
  obtain ⟨-, ts, hlexes, hreads⟩ := h
  unfold Written.nested
  cases hcompound : w.compound with
  | false =>
      rw [hcompound] at hreads
      exact ⟨ts, by simpa using hlexes, by simpa using hreads⟩
  | true =>
      rw [hcompound] at hreads
      have hopening := lexes_mark (show isWordChar '(' = false by decide) (by decide)
      have hclosing := lexes_mark (show isWordChar ')' = false by decide) (by decide)
      refine ⟨_, ?_, .group (by simpa using hreads)⟩
      simpa [Token.ofMark] using (hopening.append hlexes).append hclosing

/-- By itself a text is a condition. -/
theorem Spells.whole {w : Written} {t : Condition} (h : Spells w t) : ReadsAs w.text t := by
  obtain ⟨-, ts, hlexes, hreads⟩ := h
  refine ⟨ts, hlexes.tokens?, ?_⟩
  cases hcompound : w.compound with
  | false =>
      rw [hcompound] at hreads
      have hoperand : Reads .operand ts [t] := by simpa using hreads
      exact .condition (.conjunction (.operand hoperand))
  | true =>
      rw [hcompound] at hreads
      simpa using hreads

/-- Members joined by a word.  The two grammars rules of the word are parameters, since
`and` and `or` differ in nothing else here. -/
theorem lexes_intercalate {sep : String} {word : List Char} {phrase : Phrase}
    (hsep : Lexes sep.toList [.word word])
    (one : ∀ {ts t}, Reads .operand ts [t] → Reads phrase ts [t])
    (more : ∀ {ts us t cs}, Reads .operand ts [t] → Reads phrase us cs →
      Reads phrase (ts ++ .word word :: us) (t :: cs)) :
    ∀ {ws : List Written} {cs : List Condition}, List.Forall₂ Spells ws cs → ws ≠ [] →
      ∃ ts, Lexes (sep.intercalate (ws.map Written.nested)).toList ts ∧ Reads phrase ts cs := by
  intro ws cs h
  induction h with
  | nil => intro hne; exact absurd rfl hne
  | @cons w t ws cs hw hrest ih =>
      intro _
      obtain ⟨ts, hlexes, hreads⟩ := hw.nested
      cases hrest with
      | nil => exact ⟨ts, by simpa using hlexes, one hreads⟩
      | cons hw' hrest' =>
          obtain ⟨us, hlexes', hreads'⟩ := ih (List.cons_ne_nil _ _)
          refine ⟨_, ?_, more hreads hreads'⟩
          simpa using (hlexes.append hsep).append hlexes'

theorem lexes_and : Lexes " and ".toList [.word andWord] := by
  have hblank : isWordChar ' ' = false := by decide
  have hword := lexes_word (w := andWord) (List.all_eq_true.mp (by decide)) hblank (by decide)
  exact (lexes_mark hblank (by decide)).append hword

theorem lexes_or : Lexes " or ".toList [.word orWord] := by
  have hblank : isWordChar ' ' = false := by decide
  have hword := lexes_word (w := orWord) (List.all_eq_true.mp (by decide)) hblank (by decide)
  exact (lexes_mark hblank (by decide)).append hword

/-- The text is that of the condition that is left, and empty if none is left. -/
def SpellsRest (w : Written) : Option Condition → Prop
  | none => w.text = ""
  | some t => Spells w t

/-- A text of several members is compound and not empty. -/
theorem intercalate_ne_empty {sep : String} (hsep : sep ≠ "") (w w' : Written)
    (ws : List Written) : sep.intercalate ((w :: w' :: ws).map Written.nested) ≠ "" := by
  simp [hsep]

theorem spells_conjunction {ws : List Written} {cs : List Condition}
    (h : List.Forall₂ Spells (present ws) cs) :
    SpellsRest (conjunction ws) (joined? .all cs) := by
  unfold conjunction
  match hws : present ws, cs, h with
  | [], [], _ => rfl
  | [w], [t], .cons hw .nil => exact hw
  | w :: w' :: ws', t :: t' :: cs', h =>
      obtain ⟨ts, hlexes, hreads⟩ := lexes_intercalate lexes_and .operand .and h (by simp)
      refine ⟨intercalate_ne_empty (by decide) w w' ws', ts, hlexes, ?_⟩
      simpa using Reads.condition (.conjunction hreads)

theorem spells_disjunction {ws : List Written} {cs : List Condition}
    (h : List.Forall₂ Spells (present ws) cs) :
    SpellsRest (disjunction ws) (joined? .any cs) := by
  unfold disjunction
  match hws : present ws, cs, h with
  | [], [], _ => rfl
  | [w], [t], .cons hw .nil =>
      -- The only branch stays an operand, in its parentheses if it has some.
      obtain ⟨ts, hlexes, hreads⟩ := hw.nested
      exact ⟨by simpa using nested_ne_empty hw.1, ts, by simpa using hlexes, hreads⟩
  | w :: w' :: ws', t :: t' :: cs', h =>
      have one : ∀ {ts : List Token} {t : Condition}, Reads .operand ts [t] →
          Reads .disjunction ts [t] := fun h => .conjunction (.operand h)
      have more : ∀ {ts us : List Token} {t : Condition} {cs : List Condition},
          Reads .operand ts [t] → Reads .disjunction us cs →
          Reads .disjunction (ts ++ .word orWord :: us) (t :: cs) :=
        fun h hrest => .or (.operand h) hrest
      obtain ⟨ts, hlexes, hreads⟩ := lexes_intercalate lexes_or one more h (by simp)
      refine ⟨intercalate_ne_empty (by decide) w w' ws', ts, hlexes, ?_⟩
      simpa using Reads.condition hreads

mutual

/-- **A written condition is read as what is left of it when it is pruned.** -/
theorem spells_write : ∀ {t : Condition}, t.Plain → SpellsRest t.write t.pruned
  | .compare column sign literal, h => by
      obtain ⟨ts, hlexes, hreads⟩ := reads_compare h
      exact ⟨by simp [write], ts, hlexes, hreads⟩
  | .all parts, h => spells_conjunction (spells_writeEach h)
  | .any branches, h => spells_disjunction (spells_writeEach h)

theorem spells_writeEach : ∀ {ts : List Condition}, PlainEach ts →
    List.Forall₂ Spells (present (writeEach ts)) (prunedEach ts)
  | [], _ => .nil
  | t :: ts, ⟨ht, hts⟩ => by
      have hrest := spells_writeEach hts
      have hfirst := spells_write ht
      rw [writeEach, prunedEach, present, List.filter_cons]
      cases hpruned : t.pruned with
      | none =>
          rw [hpruned] at hfirst
          rw [show t.write.text = "" from hfirst]
          exact hrest
      | some u =>
          rw [hpruned] at hfirst
          rw [if_pos (by simpa using hfirst.1)]
          exact .cons hfirst hrest

end

end Condition

end RowShell
