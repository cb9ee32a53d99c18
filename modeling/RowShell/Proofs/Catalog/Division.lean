/-
Texts divide into groups in one way.

A text may hold anything: closing brackets without an opening one, strings that are left open,
brackets that are never closed.  It still is a number of gaps with a group after each, and a
tail.  `IsDivided` says that of a text and its groups without a scan.  Every text is divided
somehow, `exists_isDivided`, and the scan finds the groups of any division,
`IsDivided.split_eq`, so that no text is divided into two lists of groups.

What makes a division exist is that a text which begins with an opening bracket either keeps it
open or begins with a group.
-/
import RowShell.Proofs.Catalog.Groups

namespace RowShell.Chunks

/-- What follows the last group: no bracket opens in it, or the first that does stays open. -/
def IsTail (cs : List Char) : Prop :=
  '[' ∉ outside cs ∨ ∃ gap rest, cs = gap ++ rest ∧ IsGap gap ∧ IsUnclosed rest

/-- A text is gaps with a group after each, and a tail. -/
inductive IsDivided : List Char → List (List Char) → Prop
  | tail {cs : List Char} (h : IsTail cs) : IsDivided cs []
  | group {gap group rest : List Char} {groups : List (List Char)} (hgap : IsGap gap)
      (hgroup : IsGroup group) (hrest : IsDivided rest groups) :
      IsDivided (gap ++ group ++ rest) (group :: groups)

/-! ### The scan finds the groups of a division -/

theorem IsTail.split_eq {cs : List Char} (h : IsTail cs) : split cs = [] := by
  unfold split
  rcases h with hopen | ⟨gap, rest, rfl, hgap, hrest⟩
  · have hscan := scan_unopened hopen []
    rw [List.append_nil] at hscan
    rw [hscan, scan]
  · obtain ⟨n, hn, -⟩ := hrest.openBrackets_pos
    have hscan := scan_unclosed hrest [] hn
    rw [List.append_nil] at hscan
    rw [scan_gap hgap, hscan, scan]

theorem IsDivided.split_eq {cs : List Char} {groups : List (List Char)}
    (h : IsDivided cs groups) : split cs = groups := by
  induction h with
  | tail htail => exact htail.split_eq
  | group hgap hgroup _ ih =>
      unfold split at ih ⊢
      rw [List.append_assoc, scan_gap hgap, scan_group hgroup, ih]

/-! ### Every text is divided -/

/-- A text in which a bracket opens is a gap up to the first one. -/
theorem exists_gap {cs : List Char} (h : '[' ∈ outside cs) :
    ∃ gap rest, cs = gap ++ '[' :: rest ∧ IsGap gap := by
  induction cs using List.reverseRecOn with
  | nil => simp [outside] at h
  | append_singleton before c ih =>
      by_cases hbefore : '[' ∈ outside before
      · obtain ⟨gap, rest, rfl, hgap⟩ := ih hbefore
        exact ⟨gap, rest ++ [c], by simp, hgap⟩
      · rw [outside_concat, List.mem_append, or_iff_right hbefore] at h
        obtain ⟨hplace, rfl⟩ := Place.of_mem_shown h
        refine ⟨before, [], rfl, hbefore, ?_⟩
        rw [outside_concat, hplace]
        rfl

/-- A bracket that opens a text stays open, or the text begins with a group. -/
theorem isUnclosed_or_exists_group {cs : List Char} (hopens : cs.head? = some '[') :
    IsUnclosed cs ∨ ∃ group, group <+: cs ∧ IsGroup group := by
  induction cs using List.reverseRecOn with
  | nil => cases hopens
  | append_singleton before c ih =>
      by_cases hbefore : before = []
      · subst hbefore
        have hc : c = '[' := by simpa using hopens
        subst hc
        refine .inl ⟨rfl, ?_⟩
        intro other hother hne
        rw [(List.prefix_concat_iff.mp hother).resolve_right fun h => hne (List.prefix_nil.mp h)]
        decide
      · rw [List.head?_append_of_ne_nil _ hbefore] at hopens
        rcases ih hopens with hunclosed | ⟨group, hbegins, hgroup⟩
        · have hstays : ∀ other, other <+: before ++ [c] → other ≠ [] →
              openBrackets other = 0 → other = before ++ [c] := by
            intro other hother hne hzero
            refine (List.prefix_concat_iff.mp hother).resolve_right ?_
            intro hbegins
            exact hunclosed.stays other hbegins hne hzero
          have hhead : (before ++ [c]).head? = some '[' := by
            rw [List.head?_append_of_ne_nil _ hbefore, hopens]
          by_cases hzero : openBrackets (before ++ [c]) = 0
          · exact .inr ⟨_, List.prefix_rfl, hhead, hzero, hstays⟩
          · refine .inl ⟨hhead, ?_⟩
            intro other hother hne hother0
            rw [hstays other hother hne hother0] at hother0
            exact hzero hother0
        · exact .inr ⟨group, hbegins.trans (List.prefix_append before [c]), hgroup⟩

theorem exists_isDivided (cs : List Char) : ∃ groups, IsDivided cs groups := by
  induction hlength : cs.length using Nat.strongRecOn generalizing cs with
  | ind length ih =>
      by_cases hopen : '[' ∈ outside cs
      · obtain ⟨gap, rest, rfl, hgap⟩ := exists_gap hopen
        have hopens : ('[' :: rest).head? = some '[' := rfl
        rcases isUnclosed_or_exists_group hopens with hunclosed | hgroup
        · exact ⟨[], .tail (.inr ⟨gap, _, rfl, hgap, hunclosed⟩)⟩
        · obtain ⟨group, ⟨after, hafter⟩, hgroup⟩ := hgroup
          have hshorter : after.length < length := by
            have hpos := List.length_pos_iff.mpr hgroup.ne_nil
            have htotal := congrArg List.length hafter
            rw [List.length_append] at htotal
            rw [List.length_append] at hlength
            omega
          obtain ⟨groups, hgroups⟩ := ih _ hshorter after rfl
          rw [← hafter, ← List.append_assoc]
          exact ⟨group :: groups, .group hgap hgroup hgroups⟩
      · exact ⟨[], .tail (.inl hopen)⟩

/-- **The groups of a text are those of its division**, and there is no other division. -/
theorem split_eq_iff {cs : List Char} {groups : List (List Char)} :
    split cs = groups ↔ IsDivided cs groups := by
  refine ⟨?_, IsDivided.split_eq⟩
  intro h
  obtain ⟨others, hothers⟩ := exists_isDivided cs
  rwa [← h, hothers.split_eq]

/-! ### Groups that are put together -/

/-- Groups with anything free of brackets and quotes around them. -/
theorem isDivided_flatMap {pieces : List (List Char × List Char)} {last : List Char}
    (h : ∀ piece ∈ pieces, IsFree piece.1 ∧ IsGroup piece.2) (hlast : IsFree last) :
    IsDivided (pieces.flatMap (fun piece => piece.1 ++ piece.2) ++ last)
      (pieces.map Prod.snd) := by
  induction pieces with
  | nil => exact .tail (.inl hlast.isGap.unopened)
  | cons piece rest ih =>
      obtain ⟨hgap, hgroup⟩ := h piece (by simp)
      have hrest := ih fun other hother => h other (by simp [hother])
      rw [List.flatMap_cons, List.append_assoc, List.map_cons]
      exact .group hgap.isGap hgroup hrest

theorem IsDivided.isGroup {cs : List Char} {groups : List (List Char)} (h : IsDivided cs groups) :
    ∀ group ∈ groups, IsGroup group := by
  induction h with
  | tail _ => simp
  | group _ hgroup _ ih => exact List.forall_mem_cons.mpr ⟨hgroup, ih⟩

/-- Groups with nothing between them. -/
theorem split_flatten_split (cs : List Char) : split (split cs).flatten = split cs := by
  have hgroups : ∀ group ∈ split cs, IsGroup group := (split_eq_iff.mp rfl).isGroup
  have hpieces : ∀ piece ∈ (split cs).map fun group => (([], group) : List Char × List Char),
      IsFree piece.1 ∧ IsGroup piece.2 := by
    simpa [IsFree] using hgroups
  have hdivided := isDivided_flatMap hpieces (show IsFree [] by decide)
  simpa [List.flatMap_map, List.flatMap_id', Function.comp_def] using hdivided.split_eq

/-! ### Strings -/

theorem ofText_eq_iff {text : String} {groups : List String} :
    ofText text = groups ↔ IsDivided text.toList (groups.map String.toList) := by
  rw [← split_eq_iff, ofText]
  constructor
  · intro h
    rw [← h, List.map_map]
    simp
  · intro h
    rw [h, List.map_map]
    simp

theorem toList_join_map {pieces : List (String × String)} :
    (String.join (pieces.map fun piece => piece.1 ++ piece.2)).toList =
      (pieces.map fun piece => (piece.1.toList, piece.2.toList)).flatMap
        fun piece => piece.1 ++ piece.2 := by
  simp [String.toList_join, List.flatMap_map]

/-- **A text is split into the groups of its only division.**  The groups of any text are found
where they stand: a gap before each, a tail after the last one, and no other list of groups
divides the text like this.  So groups that are put together, with anything free of opening
brackets and quotes before, between and after them, are found again; and what was split, put
together, is split into the same groups. -/
theorem ofText_divides :
    (∀ (text : String) (groups : List String),
      ofText text = groups ↔ IsDivided text.toList (groups.map String.toList)) ∧
    (∀ (pieces : List (String × String)) (last : String),
      (∀ piece ∈ pieces, IsFree piece.1.toList ∧ IsGroup piece.2.toList) → IsFree last.toList →
      ofText (String.join (pieces.map fun piece => piece.1 ++ piece.2) ++ last) =
        pieces.map Prod.snd) ∧
    ∀ text : String, ofText (String.join (ofText text)) = ofText text := by
  refine ⟨fun _ _ => ofText_eq_iff, ?_, ?_⟩
  · intro pieces last h hlast
    rw [ofText_eq_iff, String.toList_append, toList_join_map]
    have hpieces : ∀ piece ∈ pieces.map fun piece => (piece.1.toList, piece.2.toList),
        IsFree piece.1 ∧ IsGroup piece.2 := List.forall_mem_map.mpr h
    have hdivided := isDivided_flatMap hpieces hlast
    simpa [Function.comp_def] using hdivided
  · intro text
    rw [ofText, ofText, String.toList_join, List.flatMap_map]
    simp [split_flatten_split, List.flatMap_id']

/-- A bracket in a string after an escaped quote, and a closing bracket between groups. -/
theorem ofText_divides_closing :
    ofText "[\"\\\"]\", [1]] ]\n[2]]" = ["[\"\\\"]\", [1]]", "[2]"] := by
  have hpieces : ∀ piece ∈ [("", "[\"\\\"]\", [1]]"), (" ]\n", "[2]")],
      IsFree piece.1.toList ∧ IsGroup piece.2.toList := by decide
  exact ofText_divides.2.1 _ "]" hpieces (by decide)

end RowShell.Chunks
