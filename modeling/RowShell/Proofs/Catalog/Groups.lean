/-
Bracket groups are found where they stand.

The scan goes through a text once, with a place, a depth and the characters of the group
in progress.  Here a group is described without any of these: its first character opens a
bracket, and of all its beginnings only the whole has as many closing brackets as opening
ones, where brackets in quoted strings do not count.  `split_spaced` says that a text made
of such groups, with blanks before and after each, is split into exactly these groups,
whatever stands inside them.

The scan meets texts of three kinds.  A gap opens no bracket, and the scan forgets it.  A text
whose first bracket is still open is held: the depth is the number of its open brackets, and
the characters held are that text.  A group is such a text and the bracket that closes it.
-/
import Mathlib.Data.List.Forall2
import Mathlib.Data.List.Infix
import RowShell.Catalog.Chunks
import RowShell.Json

namespace RowShell.Chunks

/-! ### Groups -/

mutual

/-- The characters that are outside quoted strings. -/
def outside : List Char → List Char
  | [] => []
  | c :: rest => if c = '"' then inside rest else c :: outside rest

/-- The same in a text that begins inside a string; a backslash there takes the next
character with it. -/
def inside : List Char → List Char
  | [] => []
  | '\\' :: _ :: rest => inside rest
  | c :: rest => if c = '"' then outside rest else inside rest

end

/-- The number of brackets that are open after a text. -/
def openBrackets (cs : List Char) : Int := (outside cs).count '[' - (outside cs).count ']'

/-- An opening bracket up to the bracket that closes it. -/
structure IsGroup (cs : List Char) : Prop where
  opens : cs.head? = some '['
  closes : openBrackets cs = 0
  first : ∀ before, before <+: cs → before ≠ [] → openBrackets before = 0 → before = cs

theorem isGroup_iff {cs : List Char} : IsGroup cs ↔ cs.head? = some '[' ∧ openBrackets cs = 0 ∧
    ∀ before ∈ cs.inits, before ≠ [] → openBrackets before = 0 → before = cs := by
  simp only [List.mem_inits]
  exact ⟨fun h => ⟨h.opens, h.closes, h.first⟩, fun h => ⟨h.1, h.2.1, h.2.2⟩⟩

instance (cs : List Char) : Decidable (IsGroup cs) := decidable_of_iff _ isGroup_iff.symm

/-- A text whose first character opens a bracket that is never closed. -/
structure IsUnclosed (cs : List Char) : Prop where
  opens : cs.head? = some '['
  stays : ∀ before, before <+: cs → before ≠ [] → openBrackets before ≠ 0

/-- A text that opens no bracket and ends outside strings: a bracket after it would count. -/
structure IsGap (cs : List Char) : Prop where
  unopened : '[' ∉ outside cs
  ends : outside (cs ++ ['[']) = outside cs ++ ['[']

/-- A text without brackets that open and without quotes. -/
def IsFree (cs : List Char) : Prop := '[' ∉ cs ∧ '"' ∉ cs

instance (cs : List Char) : Decidable (IsFree cs) := inferInstanceAs (Decidable (_ ∧ _))

/-- A group with white space before and after it. -/
def IsSpaced (group text : List Char) : Prop :=
  IsGroup group ∧ ∃ before after, (∀ c ∈ before, Json.isSpace c = true) ∧
    (∀ c ∈ after, Json.isSpace c = true) ∧ text = before ++ group ++ after

/-! ### The place of the scan -/

/-- The place after a text. -/
def placeAfter (place : Place) (cs : List Char) : Place := cs.foldl Place.next place

theorem placeAfter_concat (place : Place) (cs : List Char) (c : Char) :
    placeAfter place (cs ++ [c]) = (placeAfter place cs).next c := by
  simp [placeAfter]

/-- The character, if it is outside strings at a place. -/
def Place.shown : Place → Char → List Char
  | .plain, c => if c = '"' then [] else [c]
  | _, _ => []

theorem inside_escape (c : Char) (rest : List Char) : inside ('\\' :: c :: rest) = inside rest := by
  rw [inside]

theorem inside_cons {c : Char} (hc : c ≠ '\\') (rest : List Char) :
    inside (c :: rest) = if c = '"' then outside rest else inside rest := by
  rw [inside]
  intro d more heq _
  exact hc heq

/-- A single character in a string shows nothing. -/
theorem inside_singleton (c : Char) : inside [c] = [] := by
  by_cases hc : c = '\\'
  · subst hc
    rfl
  · rw [inside_cons hc]
    split <;> rfl

mutual

theorem outside_concat (d : Char) : ∀ cs : List Char,
    outside (cs ++ [d]) = outside cs ++ (placeAfter .plain cs).shown d
  | [] => by
      rw [List.nil_append, outside, outside, inside, outside]
      rfl
  | c :: cs => by
      by_cases hc : c = '"'
      · subst hc
        rw [List.cons_append, outside, if_pos rfl, outside, if_pos rfl, inside_concat d cs]
        rfl
      · have hplace : placeAfter .plain (c :: cs) = placeAfter .plain cs := by
          simp [placeAfter, Place.next, hc]
        rw [List.cons_append, outside, if_neg hc, outside, if_neg hc, outside_concat d cs, hplace]
        rfl

theorem inside_concat (d : Char) : ∀ cs : List Char,
    inside (cs ++ [d]) = inside cs ++ (placeAfter .quoted cs).shown d
  | [] => inside_singleton d
  | [c] => by
      by_cases hc : c = '\\'
      · subst hc
        rw [List.singleton_append, inside_escape, inside_singleton]
        rfl
      · by_cases hquote : c = '"'
        · subst hquote
          rw [List.singleton_append, inside_cons hc, if_pos rfl, inside_singleton]
          exact outside_concat d []
        · have hplace : placeAfter .quoted [c] = .quoted := by
            simp [placeAfter, Place.next, hc, hquote]
          rw [List.singleton_append, inside_cons hc, if_neg hquote, inside_singleton,
            inside_singleton, hplace]
          rfl
  | c :: e :: cs => by
      by_cases hc : c = '\\'
      · subst hc
        rw [List.cons_append, List.cons_append, inside_escape, inside_escape, inside_concat d cs]
        rfl
      · by_cases hquote : c = '"'
        · subst hquote
          rw [List.cons_append, inside_cons hc, if_pos rfl, inside_cons hc, if_pos rfl,
            outside_concat d (e :: cs)]
          rfl
        · have hplace : placeAfter .quoted (c :: e :: cs) = placeAfter .quoted (e :: cs) := by
            simp [placeAfter, Place.next, hc, hquote]
          rw [List.cons_append, inside_cons hc, if_neg hquote, inside_cons hc, if_neg hquote,
            inside_concat d (e :: cs), hplace]

end

/-- A character changes the number of open brackets as it changes the depth of the scan. -/
theorem openBrackets_concat {cs : List Char} {n : Nat} (hn : openBrackets cs = n) (hpos : 0 < n)
    (c : Char) : openBrackets (cs ++ [c]) = ((placeAfter .plain cs).depth n c : Nat) := by
  unfold openBrackets at hn ⊢
  rw [outside_concat, List.count_append, List.count_append]
  cases placeAfter .plain cs with
  | plain =>
      by_cases hopen : c = '['
      · subst hopen
        simp [Place.shown, Place.depth]
        omega
      · by_cases hclose : c = ']'
        · subst hclose
          simp [Place.shown, Place.depth]
          omega
        · have hcount : ∀ b, b = '[' ∨ b = ']' → (Place.plain.shown c).count b = 0 := by
            intro b hb
            rw [List.count_eq_zero, Place.shown]
            split
            · simp
            · rcases hb with rfl | rfl
              · simpa using Ne.symm hopen
              · simpa using Ne.symm hclose
          simp [hcount, Place.depth, hopen, hclose]
          omega
  | quoted =>
      simp [Place.shown, Place.depth]
      omega
  | escaped =>
      simp [Place.shown, Place.depth]
      omega

/-- What is outside strings is seen at the plain place. -/
theorem Place.of_mem_shown {place : Place} {b c : Char} (h : b ∈ place.shown c) :
    place = .plain ∧ c = b := by
  cases place with
  | plain =>
      rw [Place.shown] at h
      split at h
      · simp at h
      · exact ⟨rfl, (List.mem_singleton.mp h).symm⟩
  | quoted => simp [Place.shown] at h
  | escaped => simp [Place.shown] at h

/-- A depth of zero stays unless a bracket opens. -/
theorem Place.depth_zero {place : Place} {c : Char} (h : '[' ∉ place.shown c) :
    place.depth 0 c = 0 := by
  cases place with
  | plain =>
      have hc : c ≠ '[' := by
        intro heq
        subst heq
        exact h (by decide)
      simp [Place.depth, hc]
  | quoted => rfl
  | escaped => rfl

/-- The depth falls to zero only at a closing bracket outside strings. -/
theorem Place.depth_eq_zero {place : Place} {n : Nat} {c : Char} (hpos : 0 < n)
    (h : place.depth n c = 0) : place = .plain ∧ c = ']' := by
  unfold Place.depth at h
  split at h
  · split at h
    · omega
    · split at h
      · next hclose => exact ⟨rfl, by simpa using hclose⟩
      · omega
  · omega

/-! ### Texts with an open bracket -/

theorem IsUnclosed.beginning {cs before : List Char} (h : IsUnclosed cs) (hbegins : before <+: cs)
    (hne : before ≠ []) : IsUnclosed before := by
  refine ⟨?_, ?_⟩
  · obtain ⟨after, rfl⟩ := hbegins
    rw [← h.opens, List.head?_append_of_ne_nil _ hne]
  · intro other hother
    exact h.stays other (hother.trans hbegins)

/-- A text with an open bracket grows from that bracket, a character at a time. -/
@[elab_as_elim]
theorem IsUnclosed.concatRecOn {motive : ∀ cs, IsUnclosed cs → Prop}
    (bracket : ∀ h : IsUnclosed ['['], motive ['['] h)
    (concat : ∀ (before : List Char) (c : Char) (hbefore : IsUnclosed before)
      (h : IsUnclosed (before ++ [c])), motive before hbefore → motive (before ++ [c]) h)
    {cs : List Char} (h : IsUnclosed cs) : motive cs h := by
  induction cs using List.reverseRecOn with
  | nil => cases h.opens
  | append_singleton before c ih =>
      by_cases hne : before = []
      · subst hne
        have hc : c = '[' := by simpa using h.opens
        subst hc
        exact bracket h
      · have hbefore := h.beginning (List.prefix_append before [c]) hne
        exact concat before c hbefore h (ih hbefore)

/-- The depth does not fall to zero where a bracket stays open. -/
theorem IsUnclosed.depth_ne_zero {before : List Char} {c : Char} (h : IsUnclosed (before ++ [c]))
    {n : Nat} (hn : openBrackets before = n) (hpos : 0 < n) :
    (placeAfter .plain before).depth n c ≠ 0 := by
  intro hzero
  have hdepth := openBrackets_concat hn hpos c
  rw [hzero] at hdepth
  exact h.stays _ List.prefix_rfl (by simp) hdepth

theorem IsUnclosed.openBrackets_pos {cs : List Char} (h : IsUnclosed cs) :
    ∃ n : Nat, openBrackets cs = n ∧ 0 < n := by
  induction h using IsUnclosed.concatRecOn with
  | bracket _ => exact ⟨1, rfl, Nat.one_pos⟩
  | concat before c _ h ih =>
      obtain ⟨n, hn, hpos⟩ := ih
      exact ⟨_, openBrackets_concat hn hpos c, Nat.pos_of_ne_zero (h.depth_ne_zero hn hpos)⟩

/-- A group is a text with an open bracket and the bracket that closes it. -/
theorem IsGroup.eq_concat {cs : List Char} (hgroup : IsGroup cs) :
    ∃ before, cs = before ++ [']'] ∧ IsUnclosed before ∧ placeAfter .plain before = .plain ∧
      openBrackets before = 1 := by
  rcases List.eq_nil_or_concat cs with rfl | ⟨before, c, rfl⟩
  · cases hgroup.opens
  · rw [List.concat_eq_append] at hgroup ⊢
    have hbefore : before ≠ [] := by
      intro heq
      subst heq
      have hc : c = '[' := by simpa using hgroup.opens
      subst hc
      exact absurd hgroup.closes (by decide)
    have hunclosed : IsUnclosed before := by
      refine ⟨?_, ?_⟩
      · rw [← hgroup.opens, List.head?_append_of_ne_nil _ hbefore]
      · intro other hother hne hzero
        have heq := hgroup.first other (hother.trans (List.prefix_append before [c])) hne hzero
        have hlength := hother.length_le
        rw [heq, List.length_append, List.length_singleton] at hlength
        omega
    obtain ⟨n, hn, hpos⟩ := hunclosed.openBrackets_pos
    have hdepth := openBrackets_concat hn hpos c
    rw [hgroup.closes] at hdepth
    obtain ⟨hplain, rfl⟩ := Place.depth_eq_zero hpos (Int.ofNat_eq_zero.mp hdepth.symm)
    refine ⟨before, rfl, hunclosed, hplain, ?_⟩
    rw [hplain] at hdepth
    simp [Place.depth] at hdepth
    omega

/-! ### The scan of each kind of text -/

/-- Before a group nothing is held. -/
theorem scan_unopened {cs : List Char} (h : '[' ∉ outside cs) (rest : List Char) :
    scan .plain 0 [] (cs ++ rest) = scan (placeAfter .plain cs) 0 [] rest := by
  induction cs using List.reverseRecOn generalizing rest with
  | nil => rfl
  | append_singleton before c ih =>
      rw [outside_concat, List.mem_append, not_or] at h
      obtain ⟨hbefore, hc⟩ := h
      rw [List.append_assoc, ih hbefore, List.singleton_append, scan,
        if_pos ⟨rfl, Place.depth_zero hc⟩, placeAfter_concat]

theorem IsGap.placeAfter_eq {cs : List Char} (h : IsGap cs) : placeAfter .plain cs = .plain := by
  have hshown := h.ends
  rw [outside_concat, List.append_cancel_left_eq] at hshown
  cases hplace : placeAfter .plain cs with
  | plain => rfl
  | _ => rw [hplace] at hshown; cases hshown

/-- Nothing is found in a gap, and the scan starts again after it. -/
theorem scan_gap {cs : List Char} (h : IsGap cs) (rest : List Char) :
    scan .plain 0 [] (cs ++ rest) = scan .plain 0 [] rest := by
  rw [scan_unopened h.unopened, h.placeAfter_eq]

/-- A text with an open bracket is held. -/
theorem scan_unclosed {cs : List Char} (h : IsUnclosed cs) (rest : List Char) {n : Nat}
    (hn : openBrackets cs = n) :
    scan .plain 0 [] (cs ++ rest) = scan (placeAfter .plain cs) n cs.reverse rest := by
  induction h using IsUnclosed.concatRecOn generalizing rest n with
  | bracket _ =>
      obtain rfl : n = 1 := Int.ofNat_inj.mp hn.symm
      rfl
  | concat before c hbefore h ih =>
      obtain ⟨m, hm, hpos⟩ := hbefore.openBrackets_pos
      have hdepth := openBrackets_concat hm hpos c
      obtain rfl : n = (placeAfter .plain before).depth m c := by omega
      rw [List.append_assoc, ih _ hm, List.singleton_append, scan, if_neg (by omega),
        if_neg (h.depth_ne_zero hm hpos), placeAfter_concat, List.reverse_concat]

/-- **A group is found whole**, and the scan starts again after it. -/
theorem scan_group {cs : List Char} (hgroup : IsGroup cs) (rest : List Char) :
    scan .plain 0 [] (cs ++ rest) = cs :: scan .plain 0 [] rest := by
  obtain ⟨before, rfl, hunclosed, hplain, hopen⟩ := hgroup.eq_concat
  rw [List.append_assoc, scan_unclosed hunclosed _ hopen, hplain, List.singleton_append, scan,
    if_neg (by decide), if_pos (show Place.plain.depth 1 ']' = 0 from rfl)]
  simp [Place.next]

theorem IsGroup.ne_nil {cs : List Char} (h : IsGroup cs) : cs ≠ [] := by
  intro heq
  subst heq
  cases h.opens

/-- A text without brackets and quotes is a gap. -/
theorem IsFree.isGap {cs : List Char} (h : IsFree cs) : IsGap cs := by
  have houtside : ∀ ds : List Char, '"' ∉ ds → outside ds = ds := by
    intro ds hds
    induction ds with
    | nil => rw [outside]
    | cons d ds ih =>
        rw [List.mem_cons, not_or] at hds
        rw [outside, if_neg (Ne.symm hds.1), ih hds.2]
  refine ⟨?_, ?_⟩
  · rw [houtside cs h.2]
    exact h.1
  · rw [houtside cs h.2, houtside _ (by simp [h.2])]

theorem isFree_of_isSpace {cs : List Char} (h : ∀ c ∈ cs, Json.isSpace c = true) : IsFree cs := by
  refine ⟨?_, ?_⟩
  · intro hmem
    exact absurd (h _ hmem) (by decide)
  · intro hmem
    exact absurd (h _ hmem) (by decide)

theorem scan_spaced {group text : List Char} (h : IsSpaced group text) (rest : List Char) :
    scan .plain 0 [] (text ++ rest) = group :: scan .plain 0 [] rest := by
  obtain ⟨hgroup, before, after, hbefore, hafter, rfl⟩ := h
  rw [List.append_assoc, List.append_assoc, scan_gap (isFree_of_isSpace hbefore).isGap,
    scan_group hgroup, scan_gap (isFree_of_isSpace hafter).isGap]

/-- **A text of groups with white space around each is split into the groups.** -/
theorem split_spaced {groups texts : List (List Char)} (h : List.Forall₂ IsSpaced groups texts) :
    split texts.flatten = groups := by
  unfold split
  induction h with
  | nil => rfl
  | cons hfirst _ ih => rw [List.flatten_cons, scan_spaced hfirst, ih]

end RowShell.Chunks
