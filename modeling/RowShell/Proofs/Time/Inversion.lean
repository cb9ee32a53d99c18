/-
What the ISO reader has read.

The ISO reader takes fields of a fixed width, so on the way of a successful reading the text is
that of its fields: a number of some width is read from its written form and from nothing else,
`number?_eq_some`.  The same is said here of dates with a separator after the year, and of the
steps of a clock reading that is complete.
-/
import RowShell.Proofs.Time.Iso
import RowShell.Time.Pattern

namespace RowShell

namespace Numeral

theorem value_concat (cs : List Char) (c : Char) :
    value (cs ++ [c]) = 10 * value cs + Text.digitValue c := by
  rw [value, List.foldl_append]
  rfl

theorem digitValue_of_isAsciiDigit {c : Char} (h : Text.isAsciiDigit c = true) :
    Text.digitValue c = c.toNat - 48 ∧ 48 ≤ c.toNat ∧ c.toNat ≤ 57 := by
  have hrange : 48 ≤ c.toNat ∧ c.toNat ≤ 57 := by simpa [Text.isAsciiDigit] using h
  rw [Text.digitValue, Leading.digitValue?_of_isAsciiDigit h]
  exact ⟨rfl, hrange⟩

theorem value_lt {cs : List Char} (h : ∀ c ∈ cs, Text.isAsciiDigit c = true) :
    value cs < 10 ^ cs.length := by
  induction cs using List.reverseRecOn with
  | nil => decide
  | append_singleton cs c ih =>
      have hcs := ih fun d hd => h d (by simp [hd])
      obtain ⟨hvalue, -, hc⟩ := digitValue_of_isAsciiDigit (h c (by simp))
      rw [value_concat, hvalue, List.length_append, List.length_singleton, Nat.pow_succ]
      omega

/-- Digits of one length are those of one number only. -/
theorem eq_of_value_eq {cs ds : List Char} (hlength : cs.length = ds.length)
    (hcs : ∀ c ∈ cs, Text.isAsciiDigit c = true) (hds : ∀ d ∈ ds, Text.isAsciiDigit d = true)
    (h : value cs = value ds) : cs = ds := by
  induction cs using List.reverseRecOn generalizing ds with
  | nil => exact (List.eq_nil_of_length_eq_zero hlength.symm).symm
  | append_singleton cs c ih =>
      cases ds using List.reverseRecOn with
      | nil => simp at hlength
      | append_singleton ds d =>
          obtain ⟨hvalue, hleast, hgreatest⟩ := digitValue_of_isAsciiDigit (hcs c (by simp))
          obtain ⟨hvalue', hleast', hgreatest'⟩ := digitValue_of_isAsciiDigit (hds d (by simp))
          rw [value_concat, value_concat, hvalue, hvalue'] at h
          have hinit : cs = ds := ih (by simpa using hlength) (fun x hx => hcs x (by simp [hx]))
            (fun x hx => hds x (by simp [hx])) (by omega)
          have hlast : c = d := Char.toNat_inj.mp (by omega)
          rw [hinit, hlast]

end Numeral

theorem Date.of?_eq_some {year month day : Nat} {d : Date} (h : Date.of? year month day = some d) :
    d.year = year ∧ d.month = month ∧ d.day = day := by
  unfold Date.of? at h
  split at h
  · cases h
    exact ⟨rfl, rfl, rfl⟩
  · cases h

namespace Iso

open Numeral Text

/-- **A number of a fixed width is read exactly from its digits.** -/
theorem number?_eq_some {w n : Nat} {cs rest : List Char} (hw : 0 < w) :
    number? w cs = some (n, rest) ↔ n < 10 ^ w ∧ cs = padded w n ++ rest := by
  constructor
  · intro h
    unfold number? at h
    rw [Option.ite_none_right_eq_some] at h
    obtain ⟨⟨hlength, hall⟩, h⟩ := h
    cases h
    have hdigits := List.all_eq_true.mp hall
    have hlt := value_lt hdigits
    rw [hlength] at hlt
    refine ⟨hlt, ?_⟩
    have htake : cs.take w = padded w (value (cs.take w)) := by
      refine eq_of_value_eq ?_ hdigits (isDigits_padded w _).2 (value_padded w _).symm
      rw [hlength, length_padded hw hlt]
    rw [← htake, List.take_append_drop]
  · rintro ⟨hn, rfl⟩
    exact number?_padded hw hn rest

theorem field?_true_eq_some {cs rest : List Char} (h : field? true cs = some rest) :
    cs = '-' :: rest := by
  unfold field? at h
  rw [if_pos rfl] at h
  split at h
  · cases h
    rfl
  · cases h

/-- **A date with a hyphen or a slash after the year is read from its written form only**, unless
a week follows. -/
theorem date?_eq_some {cs : List Char} {d : Date} {c : Char} (h : date? cs = some d)
    (hmark : cs[4]? = some '-' ∨ cs[4]? = some '/') (hc : cs[5]? = some c)
    (hdigit : isDigit c = true) : cs = dateText d := by
  unfold date? at h
  simp only [Option.bind_eq_bind, Option.bind_eq_some_iff, Prod.exists] at h
  obtain ⟨year, rest, hyear, h⟩ := h
  obtain ⟨hbound, rfl⟩ := (number?_eq_some (by decide)).mp hyear
  have hlength := length_padded (w := 4) (by decide) hbound
  rw [List.getElem?_append_right (by omega), hlength] at hmark hc
  -- What follows the year is its separator and a digit.
  obtain ⟨mark, more, rfl⟩ : ∃ mark more, rest = mark :: c :: more := by
    match rest, hc with
    | mark :: c' :: more, hc =>
        cases hc
        exact ⟨mark, more, rfl⟩
  rcases hmark with hmark | hmark
  · cases hmark
    have hweek : c ≠ 'W' := by
      rintro rfl
      exact absurd hdigit (by decide)
    simp only [List.head?_cons, beq_self_eq_true, if_true, List.drop_succ_cons, List.drop_zero] at h
    split at h
    · next heq => exact absurd (List.cons.inj heq).1 hweek
    · simp only [Option.bind_eq_some_iff, Prod.exists] at h
      obtain ⟨month, rest, hmonth, rest', hfield, day, rest'', hday, h⟩ := h
      obtain ⟨-, hmore⟩ := (number?_eq_some (by decide)).mp hmonth
      obtain ⟨-, rfl⟩ := (number?_eq_some (by decide)).mp hday
      rw [Option.ite_none_right_eq_some, List.isEmpty_iff] at h
      obtain ⟨rfl, h⟩ := h
      obtain rfl := field?_true_eq_some hfield
      obtain ⟨rfl, rfl, rfl⟩ := Date.of?_eq_some h
      rw [hmore, ← dateText_eq, List.append_nil]
  · -- A slash can begin neither a week nor a month.
    cases hmark
    change (number? 2 ('/' :: c :: more)).bind _ = some d at h
    obtain ⟨⟨month, rest⟩, hmonth, -⟩ := Option.bind_eq_some_iff.mp h
    obtain ⟨-, hslash⟩ := (number?_eq_some (by decide)).mp hmonth
    obtain ⟨digit, digits, hascii, hcons⟩ := exists_padded_eq_cons 2 month
    rw [hcons, List.cons_append] at hslash
    rw [← (List.cons.inj hslash).1] at hascii
    exact absurd hascii (by decide)

/-! ### Times -/

/-- A time that ends with a field. -/
theorem clock?_end (more : Nat) (colons : Option Bool) {n : Nat} (hn : n < 100) :
    clock? (more + 1) colons (padded 2 n ++ []) = some ⟨[n], 0, true⟩ := by
  rw [clock?, number?_padded (by decide) hn]
  rfl

/-- A complete time does not end with the character after a field, unless that is null. -/
theorem ne_nil_of_clock? {more n : Nat} {colons : Option Bool} {mark : Char} {next : List Char}
    {clock : Clock} (hn : n < 100) (hmark : mark ≠ '\x00')
    (h : clock? (more + 1) colons (padded 2 n ++ mark :: next) = some clock)
    (hcomplete : clock.complete = true) : next ≠ [] := by
  rintro rfl
  rw [clock?, number?_padded (by decide) hn] at h
  change (if mark.toNat < 0x80 then some (Clock.mk [n] 0 (mark == '\x00')) else none) =
    some clock at h
  rw [Option.ite_none_right_eq_some] at h
  obtain ⟨-, h⟩ := h
  cases h
  exact hmark (beq_iff_eq.mp hcomplete)

theorem clock?_colon_eq_some {more n : Nat} {colons : Option Bool} {next : List Char}
    {clock : Clock} (hn : n < 100) (hcolons : colons.getD true = true)
    (h : clock? (more + 1) colons (padded 2 n ++ ':' :: next) = some clock)
    (hcomplete : clock.complete = true) : ∃ later, clock? more (some true) next = some later ∧
      clock = { later with fields := n :: later.fields } := by
  have hnext := ne_nil_of_clock? hn (by decide) h hcomplete
  obtain ⟨c, next, rfl⟩ := List.exists_cons_of_ne_nil hnext
  have hvalue : colons.getD (':' == ':') = true := hcolons
  rw [clock?, number?_padded (by decide) hn] at h
  dsimp only [Option.bind_eq_bind, Option.bind_some] at h
  rw [hvalue] at h
  obtain ⟨later, hlater, rfl⟩ := Option.map_eq_some_iff.mp h
  exact ⟨later, hlater, rfl⟩

theorem clock?_point_eq_some {more n : Nat} {colons : Option Bool} {next : List Char}
    {clock : Clock} (hn : n < 100)
    (h : clock? (more + 1) colons (padded 2 n ++ '.' :: next) = some clock)
    (hcomplete : clock.complete = true) : ∃ later, fraction? next = some later ∧
      clock = { later with fields := n :: later.fields } := by
  have hnext := ne_nil_of_clock? hn (by decide) h hcomplete
  obtain ⟨c, next, rfl⟩ := List.exists_cons_of_ne_nil hnext
  have hpoint : (colons.getD ('.' == ':') && '.' == ':') = false := Bool.and_false _
  rw [clock?, number?_padded (by decide) hn] at h
  dsimp only [Option.bind_eq_bind, Option.bind_some] at h
  rw [hpoint] at h
  obtain ⟨later, hlater, rfl⟩ := Option.map_eq_some_iff.mp h
  exact ⟨later, hlater, rfl⟩

/-- The first field of a clock reading is the one that the text begins with. -/
theorem field_zero_of_clock? {more n : Nat} {colons : Option Bool} {rest : List Char}
    {clock : Clock} (hn : n < 100)
    (h : clock? (more + 1) colons (padded 2 n ++ rest) = some clock) : clock.field 0 = n := by
  have hafter : ∀ {read : Option Clock}, (read.map fun clock =>
      { clock with fields := n :: clock.fields }) = some clock → clock.field 0 = n := by
    intro read hread
    obtain ⟨later, -, rfl⟩ := Option.map_eq_some_iff.mp hread
    rfl
  rw [clock?, number?_padded (by decide) hn] at h
  dsimp only [Option.bind_eq_bind, Option.bind_some] at h
  split at h
  · cases h
    rfl
  · rw [Option.ite_none_right_eq_some] at h
    cases h.2
    rfl
  · split at h
    · exact hafter h
    · split at h
      · exact hafter h
      · rw [Option.ite_none_left_eq_some] at h
        exact hafter h.2

/-- A fraction that a pattern takes for the whole of a text is read as the same microseconds. -/
theorem fraction?_of_field? {cs : List Char} {n : Nat}
    (h : Pattern.field? .fraction cs = some (n, [])) : fraction? cs = some ⟨[], n, true⟩ := by
  unfold Pattern.field? at h
  dsimp only at h
  rw [Option.ite_none_left_eq_some] at h
  obtain ⟨-, h⟩ := h
  obtain ⟨hvalue, hdrop⟩ := Prod.mk.inj (Option.some.inj h)
  have hprefix : (cs.take 6).takeWhile isAsciiDigit <+: cs :=
    (List.takeWhile_prefix _).trans (List.take_prefix 6 cs)
  have hwhole : (cs.take 6).takeWhile isAsciiDigit = cs :=
    hprefix.eq_of_length_le (List.drop_eq_nil_iff.mp hdrop)
  have hlength : cs.length ≤ 6 := by
    have hle := (List.takeWhile_prefix (l := cs.take 6) isAsciiDigit).length_le
    rw [hwhole, List.length_take] at hle
    omega
  have hdigits : cs.all isAsciiDigit = true := by
    rw [← hwhole]
    exact List.all_takeWhile
  rw [hwhole] at hvalue
  unfold fraction? number?
  dsimp only
  rw [Nat.min_eq_right hlength, List.take_length, List.drop_length, if_pos ⟨rfl, hdigits⟩]
  show some (Clock.mk [] (value cs * 10 ^ (6 - cs.length)) true) = _
  rw [hvalue]

end Iso

end RowShell
