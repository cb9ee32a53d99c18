/-
The category of a declared type.

A keyword may stand anywhere in a declared type, in any case and inside a longer word, so a type
may hold keywords of several categories, as `DATEINT` and `floating point` do.
`ofDeclared_le_iff` says without the search which category is taken: the earliest one that has a
keyword in the type.

What may be done to a type without losing its category follows from that.  Text around a type
takes no keyword away, so it can only move the type to an earlier category.  Changing the case of
ASCII letters does not move it: the two other letters that count as `i` are no other case of an
ASCII letter, so no change brings them in or takes them away.
-/
import Mathlib
import RowShell.Column.Category

namespace RowShell.Category

variable {category : Category} {keyword cs ds : List Char}

/-! ### The order of categories -/

/-- The place of a category among those that are tried, and after them that of no category. -/
def rank : Category → Nat
  | .string => 0
  | .numeric => 1
  | .int => 2
  | .real => 3
  | .blob => 4
  | .boolean => 5
  | .datetime => 6
  | .typeless => 7
  | .unclassified => 8

theorem rank_injective : Function.Injective rank := by
  intro c d h
  cases c <;> cases d <;> simp_all [rank]

instance : LinearOrder Category := LinearOrder.lift' rank rank_injective

theorem le_iff_rank {c d : Category} : c ≤ d ↔ c.rank ≤ d.rank := Iff.rfl

theorem le_unclassified (category : Category) : category ≤ .unclassified := by
  rw [le_iff_rank]
  cases category <;> simp [rank]

theorem pairwise_inOrder : inOrder.Pairwise (· < ·) := by decide

theorem mem_inOrder (h : category ≠ .unclassified) : category ∈ inOrder := by
  cases category <;> simp_all [inOrder]

/-- Of the categories of a list in order, the first with a property is the earliest. -/
theorem exists_find?_le {p : Category → Bool} {categories : List Category}
    (hordered : categories.Pairwise (· < ·)) (hmem : category ∈ categories)
    (hp : p category = true) : ∃ found, categories.find? p = some found ∧ found ≤ category := by
  induction categories with
  | nil => cases hmem
  | cons first rest ih =>
      rw [List.pairwise_cons] at hordered
      by_cases hfirst : p first = true
      · refine ⟨first, List.find?_cons_of_pos hfirst, ?_⟩
        rcases List.mem_cons.mp hmem with rfl | hrest
        · exact le_refl _
        · exact le_of_lt (hordered.1 category hrest)
      · rw [List.find?_cons_of_neg hfirst]
        rcases List.mem_cons.mp hmem with rfl | hrest
        · exact absurd hp hfirst
        · exact ih hordered.2 hrest

/-! ### Keywords in a text -/

/-- The word is the keyword, each letter in any case. -/
def Spells (keyword word : List Char) : Prop :=
  List.Forall₂ (fun letter c => isLetter letter c = true) keyword word

/-- A keyword of the category stands somewhere in the text. -/
def OccursIn (category : Category) (cs : List Char) : Prop :=
  ∃ keyword ∈ category.keywords, ∃ word, word <:+: cs ∧ Spells keyword.toList word

theorem begins_iff : begins keyword cs = true ↔ ∃ word, word <+: cs ∧ Spells keyword word := by
  induction keyword generalizing cs with
  | nil => simp [begins, Spells]
  | cons letter letters ih =>
      cases cs with
      | nil => simp [begins, Spells]
      | cons c cs =>
          rw [begins, Bool.and_eq_true, ih]
          constructor
          · intro h
            obtain ⟨hletter, word, hword, hspells⟩ := h
            exact ⟨c :: word, List.cons_prefix_cons.mpr ⟨rfl, hword⟩, .cons hletter hspells⟩
          · intro h
            obtain ⟨word, hword, hspells⟩ := h
            cases hspells with
            | cons hletter hrest =>
                obtain ⟨rfl, hbegins⟩ := List.cons_prefix_cons.mp hword
                exact ⟨hletter, _, hbegins, hrest⟩

theorem occurs_iff : occurs keyword cs = true ↔ ∃ word, word <:+: cs ∧ Spells keyword word := by
  induction cs with
  | nil => simp [occurs, begins_iff]
  | cons c cs ih =>
      rw [occurs, Bool.or_eq_true, begins_iff, ih]
      simp only [List.infix_cons_iff, or_and_right, exists_or]

theorem fits_iff : fits cs category = true ↔ category.OccursIn cs := by
  simp [fits, OccursIn, occurs_iff]

theorem not_occursIn_unclassified : ¬ unclassified.OccursIn cs := by
  intro h
  obtain ⟨keyword, hkeyword, -⟩ := h
  cases hkeyword

/-- What stands in a part of a text stands in the text. -/
theorem OccursIn.of_infix (h : category.OccursIn cs) (hpart : cs <:+: ds) : category.OccursIn ds := by
  obtain ⟨keyword, hkeyword, word, hword, hspells⟩ := h
  exact ⟨keyword, hkeyword, word, hword.trans hpart, hspells⟩

/-- **The category of a declared type is the earliest one with a keyword in it.** -/
theorem ofDeclared_le_iff {declared : String} :
    ofDeclared declared ≤ category ↔
      category = .unclassified ∨ ∃ earlier ≤ category, earlier.OccursIn declared.toList := by
  constructor
  · intro h
    unfold ofDeclared at h
    cases hfind : inOrder.find? (fits declared.toList) with
    | none =>
        rw [hfind] at h
        exact .inl (le_antisymm (le_unclassified category) h)
    | some found =>
        rw [hfind] at h
        exact .inr ⟨found, h, fits_iff.mp (List.find?_some hfind)⟩
  · intro h
    rcases h with rfl | ⟨earlier, hle, hoccurs⟩
    · exact le_unclassified _
    · have hmem : earlier ∈ inOrder := by
        apply mem_inOrder
        rintro rfl
        exact not_occursIn_unclassified hoccurs
      obtain ⟨found, hfind, hfound⟩ :=
        exists_find?_le pairwise_inOrder hmem (fits_iff.mpr hoccurs)
      rw [ofDeclared, hfind]
      exact hfound.trans hle

/-- A longer text is put into the same category or an earlier one. -/
theorem ofDeclared_le_of_infix {declared longer : String} (h : declared.toList <:+: longer.toList) :
    ofDeclared longer ≤ ofDeclared declared := by
  rw [ofDeclared_le_iff]
  refine (ofDeclared_le_iff.mp (le_refl (ofDeclared declared))).imp_right ?_
  intro hearlier
  obtain ⟨earlier, hle, hoccurs⟩ := hearlier
  exact ⟨earlier, hle, hoccurs.of_infix h⟩

/-! ### The case of letters -/

/-- The same character, or the other case of it if it is an ASCII letter; `Char.toLower` and
`Char.toUpper` change no other. -/
def SameLetter (c d : Char) : Prop := d = c ∨ d = c.toLower ∨ d = c.toUpper

/-- The texts are the same but for the case of ASCII letters. -/
def Recased (cs ds : List Char) : Prop := List.Forall₂ SameLetter cs ds

theorem SameLetter.toLower_eq {c d : Char} (h : SameLetter c d) : d.toLower = c.toLower := by
  rcases h with rfl | rfl | rfl <;> simp

theorem toLower_of_not_isAlpha {c : Char} (h : c.isAlpha = false) : c.toLower = c := by
  apply Char.toLower_eq_of_not_isUpper
  simp_all [Char.isAlpha]

/-- What is no ASCII letter is no other case of any character. -/
theorem eq_iff_of_toLower_eq {c d other : Char} (hother : other.isAlpha = false)
    (h : d.toLower = c.toLower) : d = other ↔ c = other := by
  have hsame : ∀ {x : Char}, x.toLower = other ↔ x = other := by
    intro x
    constructor
    · intro hx
      have hnone : x.isAlpha = false := by
        rw [← Char.isAlpha_toLower_eq_isAlpha, hx, hother]
      exact (toLower_of_not_isAlpha hnone).symm.trans hx
    · rintro rfl
      exact toLower_of_not_isAlpha hother
  rw [← hsame, h, hsame]

theorem isLetter_sameLetter (letter : Char) {c d : Char} (h : SameLetter c d) :
    isLetter letter d = isLetter letter c := by
  have hlower := h.toLower_eq
  have hdotted : d = '\u0130' ↔ c = '\u0130' := eq_iff_of_toLower_eq (by decide) hlower
  have hdotless : d = '\u0131' ↔ c = '\u0131' := eq_iff_of_toLower_eq (by decide) hlower
  rw [Bool.eq_iff_iff]
  simp [isLetter, hlower, hdotted, hdotless]

theorem begins_recased (keyword : List Char) (h : Recased cs ds) :
    begins keyword ds = begins keyword cs := by
  induction keyword generalizing cs ds with
  | nil => simp [begins]
  | cons letter letters ih =>
      cases h with
      | nil => rfl
      | cons hc hrest => rw [begins, begins, isLetter_sameLetter letter hc, ih hrest]

theorem occurs_recased (keyword : List Char) (h : Recased cs ds) :
    occurs keyword ds = occurs keyword cs := by
  induction h with
  | nil => rfl
  | cons hc hrest ih => rw [occurs, occurs, ih, begins_recased keyword (.cons hc hrest)]

theorem ofDeclared_recased {declared other : String} (h : Recased declared.toList other.toList) :
    ofDeclared other = ofDeclared declared := by
  have hfits : fits other.toList = fits declared.toList := by
    funext category
    simp [fits, occurs_recased _ h]
  rw [ofDeclared, ofDeclared, hfits]

/-! ### What a category depends on -/

/-- **A declared type is put into the earliest category with a keyword in it.**  Text before or
after it can only move it to an earlier one, so what has a category keeps having one, and the case
of its ASCII letters does not matter. -/
theorem ofDeclared_earliest (before declared after : String) :
    (∀ category, ofDeclared declared ≤ category ↔
      category = .unclassified ∨ ∃ earlier ≤ category, earlier.OccursIn declared.toList) ∧
    ofDeclared (before ++ declared ++ after) ≤ ofDeclared declared ∧
    (ofDeclared declared ≠ .unclassified →
      ofDeclared (before ++ declared ++ after) ≠ .unclassified) ∧
    ∀ other, Recased declared.toList other.toList → ofDeclared other = ofDeclared declared := by
  have hpart : declared.toList <:+: (before ++ declared ++ after).toList := by
    rw [String.toList_append, String.toList_append]
    exact List.infix_append _ _ _
  have hle := ofDeclared_le_of_infix hpart
  refine ⟨fun category => ofDeclared_le_iff, hle, ?_, fun other => ofDeclared_recased⟩
  intro hclassified hnone
  rw [hnone] at hle
  exact hclassified (le_antisymm (le_unclassified _) hle)

/-- The keyword `int` with a dotless letter in it. -/
theorem ofDeclared_earliest_dotless :
    let declared := "small\u0131nt date"
    ofDeclared declared ≠ .unclassified ∧
      ofDeclared ("double " ++ declared ++ " text") ≤ .int ∧
      ofDeclared ("double " ++ declared ++ " text") ≠ .unclassified ∧
      Recased declared.toList "SMALL\u0131NT Date".toList ∧
      ofDeclared "SMALL\u0131NT Date" = .int := by
  intro declared
  have hint : ofDeclared declared = .int := by decide
  have hclassified : ofDeclared declared ≠ .unclassified := by
    rw [hint]
    decide
  have hrecased : Recased declared.toList "SMALL\u0131NT Date".toList := by
    unfold Recased SameLetter
    decide
  obtain ⟨-, hle, hkept, hsame⟩ := ofDeclared_earliest "double " declared " text"
  exact ⟨hclassified, hint ▸ hle, hkept hclassified, hrecased, (hsame _ hrecased).trans hint⟩

end RowShell.Category
