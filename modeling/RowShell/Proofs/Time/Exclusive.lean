/-
No two patterns read the same text.

Patterns are read from left to right without a choice: what an element leaves over does not hang
on the elements after it.  So two patterns with a common beginning are apart as soon as what
follows it is, and the patterns of timestamps differ, after a common beginning, in an element that
tells them apart: one of them ends there, or blanks stand against a letter.

Then the order in which they are tried cannot matter.
-/
import Mathlib
import RowShell.Proofs.Time.Pattern

namespace RowShell

namespace Pattern

open Text

variable {p q : Pattern}

/-- No text is read by both patterns. -/
def Exclusive (p q : Pattern) : Prop := ∀ cs, fields? p cs = none ∨ fields? q cs = none

/-! ### Elements -/

theorem isLower_iff {c : Char} : c.isLower = true ↔ 97 ≤ c.toNat ∧ c.toNat ≤ 122 := by
  simp [Char.isLower, UInt32.le_iff_toNat_le, ← Char.toNat_val]

theorem toUpper_of_not_isLower {c : Char} (h : ¬ c.isLower = true) : c.toUpper = c := by
  simp only [Char.isLower, Bool.and_eq_true, decide_eq_true_eq] at h
  exact dif_neg h

theorem isUpper_toUpper {c : Char} (h : c.isLower = true) : c.toUpper.isUpper = true := by
  obtain ⟨hleast, hgreatest⟩ := isLower_iff.mp h
  rw [← Char.toNat_val] at hleast hgreatest
  simp only [Char.isLower, Bool.and_eq_true, decide_eq_true_eq] at h
  have hval : c.toUpper.val = c.val + ('A'.val - 'a'.val) := by rw [Char.toUpper, dif_pos h]
  have hnat : c.toUpper.val.toNat = c.val.toNat - 32 := by
    rw [hval, UInt32.toNat_add]
    change (c.val.toNat + 4294967264) % 4294967296 = _
    omega
  have hrange : 65 ≤ c.toUpper.val.toNat ∧ c.toUpper.val.toNat ≤ 90 := by omega
  rw [Char.isUpper, decide_eq_true_eq]
  exact hrange

/-- A letter in lower case stands for itself and for an upper one, any other character for itself
only. -/
theorem eq_or_isLower_of_stands {pattern c : Char} (h : stands pattern c = true) :
    c = pattern ∨ (c.isLower = true ∧ pattern.isUpper = true) := by
  by_cases hsame : c = pattern
  · exact .inl hsame
  · have hupper : c.toUpper = pattern := by simpa [stands, hsame] using h
    have hlower : c.isLower = true := by
      by_contra hnot
      exact hsame ((toUpper_of_not_isLower hnot).symm.trans hupper)
    exact .inr ⟨hlower, hupper ▸ isUpper_toUpper hlower⟩

theorem not_isBlank_of_isLower {c : Char} (h : c.isLower = true) : isBlank c = false := by
  obtain ⟨hleast, hgreatest⟩ := isLower_iff.mp h
  simp only [isBlank, isWhiteSpace, Bool.or_eq_false_iff, Bool.and_eq_false_iff,
    decide_eq_false_iff_not, beq_eq_false_iff_ne]
  omega

/-- **Patterns with a common first element are apart if the rest of them is.** -/
theorem Exclusive.cons (e : Element) (h : Exclusive p q) : Exclusive (e :: p) (e :: q) := by
  intro cs
  cases e with
  | field f =>
      cases hread : field? f cs with
      | none => exact .inl (by rw [fields?, hread]; rfl)
      | some read =>
          refine (h read.2).imp ?_ ?_
          · intro hnone
            rw [fields?, hread]
            change (fields? p read.2).bind _ = none
            rw [hnone]
            rfl
          · intro hnone
            rw [fields?, hread]
            change (fields? q read.2).bind _ = none
            rw [hnone]
            rfl
  | blanks =>
      rw [fields?, fields?]
      split
      · exact h _
      · exact .inl rfl
  | character c =>
      cases cs with
      | nil => exact .inl rfl
      | cons d cs =>
          rw [fields?, fields?]
          split
          · exact h cs
          · exact .inl rfl

theorem Exclusive.append (common : Pattern) (h : Exclusive p q) :
    Exclusive (common ++ p) (common ++ q) := by
  induction common with
  | nil => exact h
  | cons e common ih => exact ih.cons e

/-- A pattern that ends reads no text that one reads which goes on. -/
theorem exclusive_nil (e : Element) (p : Pattern) : Exclusive (e :: p) [] := by
  intro cs
  cases cs with
  | nil =>
      left
      cases e with
      | field f => cases f <;> rfl
      | blanks => rfl
      | character c => rfl
  | cons c cs => exact .inr rfl

/-- Blanks stand for no letter. -/
theorem exclusive_blanks_letter : Exclusive (.blanks :: p) (.character 'T' :: q) := by
  intro cs
  cases cs with
  | nil => exact .inl rfl
  | cons c cs =>
      cases hstands : stands 'T' c with
      | false => exact .inr (fields?_character_eq_none hstands q cs)
      | true =>
          have hblank : isBlank c = false := by
            rcases eq_or_isLower_of_stands hstands with rfl | ⟨hlower, -⟩
            · decide
            · exact not_isBlank_of_isLower hlower
          left
          rw [fields?, List.head?_cons, Option.any_some, hblank]
          rfl

/-! ### The patterns of timestamps -/

theorem exclusive_timePatterns : timePatterns.Pairwise Exclusive := by
  have hfraction := (exclusive_nil (.character '.') [.field .fraction]).append
    Timestamp.secondPattern
  have hsecond := (exclusive_nil (.character ':') [.field .second]).append Timestamp.minutePattern
  have hboth := (exclusive_nil (.character ':')
    [.field .second, .character '.', .field .fraction]).append Timestamp.minutePattern
  rw [List.append_nil] at hfraction hsecond hboth
  refine List.pairwise_cons.mpr ⟨?_, List.pairwise_pair.mpr hsecond⟩
  intro q hq
  rcases List.mem_pair.mp hq with rfl | rfl
  · exact hfraction
  · exact hboth

/-- What follows the date in the patterns of timestamps. -/
def endings : List Pattern :=
  timePatterns.map (.blanks :: ·) ++ timePatterns.map (.character 'T' :: ·) ++ [[]]

theorem patterns_eq_map : Timestamp.patterns = endings.map (Timestamp.datePattern ++ ·) := rfl

theorem exclusive_endings : endings.Pairwise Exclusive := by
  have hcons : ∀ e, (timePatterns.map (e :: ·)).Pairwise Exclusive := fun e =>
    exclusive_timePatterns.map _ fun _ _ h => h.cons e
  unfold endings
  refine List.pairwise_append.mpr ⟨List.pairwise_append.mpr ⟨hcons _, hcons _, ?_⟩, ?_, ?_⟩
  · intro p hp q hq
    obtain ⟨time, -, rfl⟩ := List.mem_map.mp hp
    obtain ⟨time', -, rfl⟩ := List.mem_map.mp hq
    exact exclusive_blanks_letter
  · exact List.pairwise_singleton _ _
  · intro p hp q hq
    obtain rfl := List.mem_singleton.mp hq
    rcases List.mem_append.mp hp with hp | hp
    · obtain ⟨time, -, rfl⟩ := List.mem_map.mp hp
      exact exclusive_nil _ time
    · obtain ⟨time, -, rfl⟩ := List.mem_map.mp hp
      exact exclusive_nil _ time

/-- **No text is read by two of the patterns of timestamps.** -/
theorem exclusive_patterns : Timestamp.patterns.Pairwise Exclusive := by
  rw [patterns_eq_map]
  exact exclusive_endings.map _ fun _ _ h => h.append Timestamp.datePattern

theorem timestamp?_eq_none {cs : List Char} (h : fields? p cs = none) : timestamp? p cs = none := by
  rw [timestamp?, h]
  rfl

end Pattern

/-! ### Order -/

/-- The first answer is that of the only item that has one, and the order does not matter. -/
theorem findSome?_eq_of_perm {α β : Type} {f : α → Option β} {items others : List α}
    (hperm : others.Perm items) (h : items.Pairwise fun a b => f a = none ∨ f b = none) :
    others.findSome? f = items.findSome? f := by
  induction hperm with
  | nil => rfl
  | cons a hperm ih =>
      rw [List.findSome?_cons, List.findSome?_cons, ih (List.pairwise_cons.mp h).2]
  | swap a b rest =>
      obtain ⟨hpair, -⟩ := List.pairwise_cons.mp h
      rcases hpair b (by simp) with hnone | hnone
      · simp [List.findSome?_cons, hnone]
      · simp [List.findSome?_cons, hnone]
  | trans hfirst hsecond ih ih' =>
      rw [ih (hsecond.symm.pairwise h fun hab => hab.symm), ih' h]

end RowShell
