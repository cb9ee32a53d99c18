/-
Lists in SQL text.

The items of a list stand between commas, but not every comma stands between items: a
literal may hold commas, and so may parentheses.  `items?` reads a list as a shell does.  It
cuts the text at the commas outside of both and takes the blank after each of these commas
away.

Joining gives such a list if no item has a comma of its own, `Item`, and `items?_intercalate`
says that the items are then read back as they were, in number and in order.  Nothing is
asked of the content of literals, which is one piece whatever it is.
-/
import RowShell.Proofs.Sql.Closed

namespace RowShell.Sql

/-! ### Reading lists -/

/-- The text of a piece. -/
def Piece.text : Piece → List Char
  | .char c => [c]
  | .quoted content => (Literal.quote (String.ofList content)).toList

def textOf (ps : List Piece) : List Char := ps.flatMap Piece.text

/-- The pieces between the commas outside parentheses, of which `n` are open at first; nothing
if the parentheses do not match. -/
def groups? : Nat → List Piece → Option (List (List Piece))
  | n, [] => if n = 0 then some [[]] else none
  | n, p :: ps =>
    if n = 0 ∧ p = .char ',' then (groups? 0 ps).map ([] :: ·)
    else (p.nesting? n).bind fun m => (groups? m ps).map (List.modifyHead (p :: ·))

/-- The pieces after a comma without the blank that follows it. -/
def afterComma? : List Piece → Option (List Piece)
  | .char ' ' :: ps => some ps
  | _ => none

/-- The items of groups, of which all but the first follow a comma. -/
def itemsOf? : List (List Piece) → Option (List String)
  | [] => some []
  | first :: rest =>
    (rest.mapM afterComma?).map fun others =>
      (first :: others).map fun ps => String.ofList (textOf ps)

/-- The items of a list; nothing if a literal is left open, parentheses do not match, or no
blank follows a comma between items. -/
def items? (text : List Char) : Option (List String) :=
  ((pieces? text).bind (groups? 0)).bind itemsOf?

/-! ### Pieces are the text -/

mutual

/-- Cutting a text into pieces loses nothing. -/
theorem textOf_pieces? : ∀ {text : List Char} {ps : List Piece}, pieces? text = some ps →
    textOf ps = text
  | [], ps, h => by
      cases h
      rfl
  | c :: rest, ps, h => by
      by_cases hc : c = '\''
      · rw [pieces?, if_pos hc, Option.map_eq_some_iff] at h
        obtain ⟨⟨content, after⟩, hread, rfl⟩ := h
        rw [textOf, List.flatMap_cons, hc, textOf_quoted? hread]
        simp [Piece.text, Literal.quote, textOf]
      · rw [pieces?_cons hc, Option.map_eq_some_iff] at h
        obtain ⟨after, hread, rfl⟩ := h
        rw [textOf, List.flatMap_cons, Piece.text]
        exact congrArg (c :: ·) (textOf_pieces? hread)

theorem textOf_quoted? : ∀ {text content : List Char} {ps : List Piece},
    quoted? text = some (content, ps) → text = Literal.doubled content ++ '\'' :: textOf ps
  | [], content, ps, h => by simp [quoted?] at h
  | c :: rest, content, ps, h => by
      by_cases hc : c = '\''
      · subst hc
        by_cases hrest : rest.head? = some '\''
        · obtain ⟨rest, rfl⟩ : ∃ more, rest = '\'' :: more := by
            cases rest <;> simp_all
          rw [quoted?_doubled_quote, Option.map_eq_some_iff] at h
          obtain ⟨⟨more, after⟩, hread, heq⟩ := h
          cases heq
          rw [doubled_quote, List.cons_append, List.cons_append, ← textOf_quoted? hread]
        · rw [quoted?_close hrest, Option.map_eq_some_iff] at h
          obtain ⟨after, hread, heq⟩ := h
          cases heq
          exact congrArg ('\'' :: ·) (textOf_pieces? hread).symm
      · rw [quoted?_cons hc, Option.map_eq_some_iff] at h
        obtain ⟨⟨more, after⟩, hread, heq⟩ := h
        cases heq
        rw [doubled_cons hc, List.cons_append, ← textOf_quoted? hread]

end

/-! ### Items -/

/-- The parentheses match, and every comma is inside of some. -/
structure IsItem (ps : List Piece) : Prop where
  balanced : nesting? 0 ps = some 0
  uncut : ∀ before after, ps = before ++ .char ',' :: after → nesting? 0 before ≠ some 0

/-- A text that may be an item of a list: its literals are closed, its parentheses match, and
outside of both it has no comma. -/
def Item (text : List Char) : Prop := ∃ ps, pieces? text = some ps ∧ IsItem ps

/-- The pieces of an item stay together, whatever follows them.  The induction goes along the
pieces, where some parentheses may already be open. -/
theorem groups?_append {ps : List Piece} {n : Nat} (hbalanced : nesting? n ps = some 0)
    (huncut : ∀ before after, ps = before ++ .char ',' :: after → nesting? n before ≠ some 0)
    (rest : List Piece) :
    groups? n (ps ++ rest) = (groups? 0 rest).map (List.modifyHead (ps ++ ·)) := by
  induction ps generalizing n with
  | nil =>
      cases hbalanced
      rw [List.nil_append]
      cases groups? 0 rest with
      | none => rfl
      | some groups => cases groups <;> rfl
  | cons p ps ih =>
      rw [nesting?_cons, Option.bind_eq_some_iff] at hbalanced
      obtain ⟨m, hp, hps⟩ := hbalanced
      have hcomma : ¬ (n = 0 ∧ p = .char ',') := by
        intro h
        obtain ⟨rfl, rfl⟩ := h
        exact huncut [] ps rfl rfl
      have huncut' : ∀ before after, ps = before ++ .char ',' :: after →
          nesting? m before ≠ some 0 := by
        intro before after heq hnesting
        refine huncut (p :: before) after (by rw [heq]; rfl) ?_
        rw [nesting?_cons, hp, Option.bind_some, hnesting]
      rw [List.cons_append, groups?, if_neg hcomma, hp, Option.bind_some, ih hps huncut',
        Option.map_map]
      congr 1
      funext groups
      cases groups <;> rfl

theorem groups?_ne_nil (n : Nat) (ps : List Piece) : groups? n ps ≠ some [] := by
  induction ps generalizing n with
  | nil =>
      rw [groups?]
      split <;> simp
  | cons p ps ih =>
      rw [groups?]
      split
      · simp
      · intro h
        obtain ⟨m, -, h⟩ := Option.bind_eq_some_iff.mp h
        obtain ⟨groups, hgroups, h⟩ := Option.map_eq_some_iff.mp h
        cases groups with
        | nil => exact ih m hgroups
        | cons first rest => cases h

/-- What stays together has matching parentheses and no comma outside of them. -/
theorem of_groups?_eq_singleton {ps group : List Piece} {n : Nat}
    (h : groups? n ps = some [group]) :
    nesting? n ps = some 0 ∧
      ∀ before after, ps = before ++ .char ',' :: after → nesting? n before ≠ some 0 := by
  induction ps generalizing n group with
  | nil =>
      rw [groups?] at h
      split at h
      · next hn => exact ⟨by rw [hn]; rfl, fun before after heq => by simp at heq⟩
      · cases h
  | cons p ps ih =>
      rw [groups?] at h
      split at h
      · obtain ⟨groups, hgroups, heq⟩ := Option.map_eq_some_iff.mp h
        cases heq
        exact absurd hgroups (groups?_ne_nil 0 ps)
      · next hcomma =>
          obtain ⟨m, hp, h⟩ := Option.bind_eq_some_iff.mp h
          obtain ⟨groups, hgroups, h⟩ := Option.map_eq_some_iff.mp h
          obtain ⟨first, rfl⟩ : ∃ first, groups = [first] := by
            cases groups with
            | nil => cases h
            | cons first rest =>
                cases h
                exact ⟨first, rfl⟩
          obtain ⟨hbalanced, huncut⟩ := ih hgroups
          refine ⟨by rw [nesting?_cons, hp, Option.bind_some, hbalanced], ?_⟩
          intro before after heq hnesting
          cases before with
          | nil =>
              cases heq
              cases hnesting
              exact hcomma ⟨rfl, rfl⟩
          | cons q before =>
              cases heq
              rw [nesting?_cons, hp, Option.bind_some] at hnesting
              exact huncut before after rfl hnesting

/-- An item is what is not cut. -/
theorem isItem_iff {ps : List Piece} : IsItem ps ↔ groups? 0 ps = some [ps] := by
  constructor
  · intro h
    have hgroups := groups?_append h.balanced h.uncut []
    rw [List.append_nil] at hgroups
    rw [hgroups]
    simp [groups?]
  · intro h
    obtain ⟨hbalanced, huncut⟩ := of_groups?_eq_singleton h
    exact ⟨hbalanced, huncut⟩

instance (ps : List Piece) : Decidable (IsItem ps) := decidable_of_iff _ isItem_iff.symm

/-- An item before a comma and a blank is read as the first one. -/
theorem items?_comma {a : List Char} (ha : Item a) (b : List Char) :
    items? (a ++ ',' :: ' ' :: b) = (items? b).map (String.ofList a :: ·) := by
  obtain ⟨ps, hps, hitem⟩ := ha
  have hpieces : pieces? (a ++ ',' :: ' ' :: b) =
      (pieces? b).map fun qs => ps ++ .char ',' :: .char ' ' :: qs := by
    rw [pieces?_append (by simp) hps, pieces?_cons (by decide), pieces?_cons (by decide)]
    simp only [Option.map_map, Function.comp_def]
  unfold items?
  rw [hpieces]
  cases pieces? b with
  | none => rfl
  | some qs =>
      have hgroups : groups? 0 (ps ++ .char ',' :: .char ' ' :: qs) =
          (groups? 0 qs).map fun groups => ps :: groups.modifyHead (.char ' ' :: ·) := by
        rw [groups?_append hitem.balanced hitem.uncut, groups?, if_pos ⟨rfl, rfl⟩, groups?,
          if_neg (by simp)]
        simp [Piece.nesting?, Function.comp_def]
      simp only [Option.map_some, Option.bind_some]
      rw [hgroups]
      cases groups? 0 qs with
      | none => rfl
      | some groups =>
          cases groups with
          | nil => simp [itemsOf?, textOf_pieces? hps]
          | cons first rest =>
              simp only [Option.map_some, Option.bind_some, itemsOf?, List.modifyHead_cons,
                List.mapM_cons, afterComma?]
              cases rest.mapM afterComma? with
              | none => rfl
              | some others => simp [textOf_pieces? hps]

/-- An item is a list by itself. -/
theorem items?_item {a : List Char} (ha : Item a) : items? a = some [String.ofList a] := by
  obtain ⟨ps, hps, hitem⟩ := ha
  unfold items?
  rw [hps, Option.bind_some, isItem_iff.mp hitem]
  simp [itemsOf?, textOf_pieces? hps]

/-- **A list is read back as the items that were joined.** -/
theorem items?_intercalate {items : List String} (hne : items ≠ [])
    (h : ∀ item ∈ items, Item item.toList) :
    items? (", ".intercalate items).toList = some items := by
  induction items with
  | nil => exact absurd rfl hne
  | cons item rest ih =>
      have hitem := h item (by simp)
      cases rest with
      | nil => simpa using items?_item hitem
      | cons next rest =>
          have hrest := ih (by simp) fun other hother => h other (by simp [hother])
          have hcomma := items?_comma hitem (", ".intercalate (next :: rest)).toList
          rw [hrest] at hcomma
          simpa using hcomma

/-! ### What is an item -/

/-- A character that means nothing to a list. -/
def isItemChar (c : Char) : Bool := !(['\'', '(', ')', ','].contains c)

theorem isItem_nil : IsItem [] := by
  refine ⟨rfl, ?_⟩
  intro before after h
  simp at h

theorem IsItem.cons_char {c : Char} (hc : isItemChar c = true) {ps : List Piece}
    (hps : IsItem ps) : IsItem (.char c :: ps) := by
  have hne : c ≠ '(' ∧ c ≠ ')' ∧ c ≠ ',' := by
    refine ⟨?_, ?_, ?_⟩ <;> rintro rfl <;> exact absurd hc (by decide)
  have hneutral : Piece.nesting? 0 (.char c) = some 0 :=
    Piece.nesting?_of_ne (by simpa using hne.1) (by simpa using hne.2.1) 0
  refine ⟨?_, ?_⟩
  · rw [nesting?_cons, hneutral, Option.bind_some, hps.balanced]
  · intro before after heq
    cases before with
    | nil =>
        cases heq
        exact absurd rfl hne.2.2
    | cons p before =>
        cases heq
        rw [nesting?_cons, hneutral, Option.bind_some]
        exact hps.uncut before after rfl

/-- Characters that mean nothing to a list, before an item. -/
theorem Item.append_chars {cs b : List Char} (hcs : ∀ c ∈ cs, isItemChar c = true)
    (hb : Item b) : Item (cs ++ b) := by
  induction cs with
  | nil => exact hb
  | cons c cs ih =>
      obtain ⟨ps, hps, hitem⟩ := ih fun d hd => hcs d (by simp [hd])
      have hc := hcs c (by simp)
      have hquote : c ≠ '\'' := by
        rintro rfl
        exact absurd hc (by decide)
      refine ⟨.char c :: ps, ?_, hitem.cons_char hc⟩
      rw [List.cons_append, pieces?_cons hquote, hps]
      rfl

theorem item_chars {cs : List Char} (hcs : ∀ c ∈ cs, isItemChar c = true) : Item cs := by
  have h := Item.append_chars hcs ⟨[], pieces?_nil, isItem_nil⟩
  rwa [List.append_nil] at h

/-- **A literal is an item**, whatever it holds. -/
theorem item_literal {s : String} (h : IsLiteral s) : Item s.toList := by
  cases h with
  | null => exact item_chars (List.all_eq_true.mp (by decide))
  | number h => exact item_chars fun c hc => not_contains_of (by decide) (h.isNumberChar c hc)
  | quoted s =>
      have hpieces : pieces? ((Literal.quote s).toList ++ []) = _ := pieces?_quote s (by simp)
      rw [List.append_nil] at hpieces
      refine ⟨[.quoted s.toList], hpieces, isItem_iff.mpr ?_⟩
      simp [groups?, Piece.nesting?]

theorem isItemChar_of_isName {s : String} (h : IsName s) : ∀ c ∈ s.toList, isItemChar c = true :=
  fun c hc => not_contains_of (by decide) (List.all_eq_true.mp h.2 c hc)

end RowShell.Sql
