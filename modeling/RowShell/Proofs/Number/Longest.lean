/-
The longest number at the front of a text.

Which texts are numbers is said here without a reader: `Spells` for numbers of any form and
`SpellsInteger` for integers.  The reader takes the longest number that the
text begins with, and it fails only if the text begins with none.

The reader never goes back, and that loses nothing.  A beginning that is a number may be continued
by more digits or by a point, and then the reader has gone on, but in that case the beginning had
no exponent that could be lost.  `exists_spanDigitsAndFraction?` is where this is used: after
digits and a fraction the reader stands where the number stands, unless more of them follow.
-/
import RowShell.Number.Leading
import RowShell.Proofs.Number.Decimal

namespace RowShell

/-- The longest of the beginnings of a text that have a property. -/
structure IsLongest (property : List Char → Prop) (cs p : List Char) : Prop where
  beginning : p <+: cs
  holds : property p
  longest : ∀ q, q <+: cs → property q → q <+: p

theorem IsLongest.unique {property : List Char → Prop} {cs p q : List Char}
    (hp : IsLongest property cs p) (hq : IsLongest property cs q) : p = q :=
  (hq.longest p hp.beginning hp.holds).eq_of_length_le
    (hp.longest q hq.beginning hq.holds).length_le

/-- A reader of the texts of a form: what it takes off a text has the form, and it stops no
earlier than any beginning of that form ends. -/
structure ReadsLongest {α : Type} (spells : α → List Char → Prop)
    (read : List Char → Option (α × List Char)) : Prop where
  sound : ∀ {cs a rest}, read cs = some (a, rest) → ∃ p, spells a p ∧ cs = p ++ rest
  complete : ∀ {a p}, spells a p → ∀ rest, ∃ b rest',
    read (p ++ rest) = some (b, rest') ∧ rest'.length ≤ rest.length ∧ (rest = [] → b = a)

namespace ReadsLongest

variable {α : Type} {spells : α → List Char → Prop} {read : List Char → Option (α × List Char)}
  {cs p : List Char} {a b : α}

/-- A text of the form stands for one thing only. -/
theorem unique (h : ReadsLongest spells read) (ha : spells a p) (hb : spells b p) : a = b := by
  obtain ⟨a', _, hreada, -, ha'⟩ := h.complete ha []
  obtain ⟨b', _, hreadb, -, hb'⟩ := h.complete hb []
  rw [hreada] at hreadb
  cases hreadb
  rw [← ha' rfl, ← hb' rfl]

/-- Nothing is read exactly if no beginning has the form. -/
theorem eq_none (h : ReadsLongest spells read) :
    read cs = none ↔ ∀ p, p <+: cs → ¬ ∃ a, spells a p := by
  constructor
  · intro hnone p hp hform
    obtain ⟨rest, rfl⟩ := hp
    obtain ⟨a, ha⟩ := hform
    obtain ⟨b, rest', hread, -⟩ := h.complete ha rest
    rw [hread] at hnone
    cases hnone
  · intro hnone
    cases hread : read cs with
    | none => rfl
    | some found =>
        obtain ⟨p, hp, hcs⟩ := h.sound hread
        exact absurd ⟨_, hp⟩ (hnone p ⟨_, hcs.symm⟩)

/-- What is read is the longest beginning of the form. -/
theorem exists_isLongest (h : ReadsLongest spells read) {rest : List Char}
    (hread : read cs = some (a, rest)) :
    ∃ p, IsLongest (fun p => ∃ a, spells a p) cs p ∧ spells a p := by
  obtain ⟨p, hp, hcs⟩ := h.sound hread
  refine ⟨p, ⟨⟨rest, hcs.symm⟩, ⟨a, hp⟩, ?_⟩, hp⟩
  intro q hq hform
  obtain ⟨more, hmore⟩ := hq
  obtain ⟨b, hb⟩ := hform
  obtain ⟨_, rest', hread', hlength, -⟩ := h.complete hb more
  rw [hmore, hread] at hread'
  cases hread'
  have htotal := congrArg List.length (hmore.trans hcs)
  rw [List.length_append, List.length_append] at htotal
  exact List.prefix_of_prefix_length_le ⟨more, hmore⟩ ⟨rest, hcs.symm⟩ (by omega)

theorem eq_some (h : ReadsLongest spells read) : (read cs).map Prod.fst = some a ↔
    ∃ p, IsLongest (fun p => ∃ a, spells a p) cs p ∧ spells a p := by
  constructor
  · intro hread
    obtain ⟨⟨_, rest⟩, hsome, rfl⟩ := Option.map_eq_some_iff.mp hread
    exact h.exists_isLongest hsome
  · intro hform
    obtain ⟨p, hlongest, hp⟩ := hform
    cases hsome : read cs with
    | none => exact absurd ⟨a, hp⟩ (h.eq_none.mp hsome p hlongest.beginning)
    | some found =>
        obtain ⟨q, hlongest', hq⟩ := h.exists_isLongest hsome
        rw [hlongest.unique hlongest'] at hp
        exact congrArg some (h.unique hq hp)

end ReadsLongest

namespace Leading

open Text Numeral

/-! ### The form of numbers -/

/-- A sign that may be missing, and whether it is a minus. -/
inductive IsSign : Bool → List Char → Prop
  | missing : IsSign false []
  | plus : IsSign false ['+']
  | minus : IsSign true ['-']

/-- One digit or more, of any script. -/
def IsDigits (cs : List Char) : Prop := cs ≠ [] ∧ ∀ c ∈ cs, isDigit c = true

/-- Digits, with a point and a fraction after them that may be missing, or a point and a
fraction alone; the digits before the point and after it. -/
inductive IsDecimal : List Char → List Char → List Char → Prop
  | whole {whole : List Char} (h : IsDigits whole) : IsDecimal whole [] whole
  | point {whole fraction : List Char} (h : IsDigits whole)
      (h' : ∀ c ∈ fraction, isDigit c = true) :
      IsDecimal whole fraction (whole ++ '.' :: fraction)
  | fraction {fraction : List Char} (h : IsDigits fraction) :
      IsDecimal [] fraction ('.' :: fraction)

/-- An exponent that may be missing. -/
inductive IsExponent : Int → List Char → Prop
  | missing : IsExponent 0 []
  | present {mark : Char} {negative : Bool} {sign digits : List Char}
      (hmark : mark = 'e' ∨ mark = 'E') (hsign : IsSign negative sign) (h : IsDigits digits) :
      IsExponent (signed negative (value digits)) (mark :: (sign ++ digits))

/-- A number without its sign, and what it denotes with the sign. -/
inductive IsMagnitude (negative : Bool) : Binary64 → List Char → Prop
  | infinity : IsMagnitude negative (.infinity negative) "Infinity".toList
  | decimal {whole fraction mantissa power : List Char} {exponent : Int}
      (h : IsDecimal whole fraction mantissa) (h' : IsExponent exponent power) :
      IsMagnitude negative
        (.ofOrdinal negative
          (Binary64.nearestDecimal ⟨value (whole ++ fraction), exponent - fraction.length⟩))
        (mantissa ++ power)

/-- A text that is a number, and the binary64 number nearest to it. -/
inductive Spells : Binary64 → List Char → Prop
  | signed {x : Binary64} {negative : Bool} {sign magnitude : List Char}
      (hsign : IsSign negative sign) (h : IsMagnitude negative x magnitude) :
      Spells x (sign ++ magnitude)

/-- A text that is a number. -/
def IsNumber (cs : List Char) : Prop := ∃ x, Spells x cs

/-- A text that is an integer, whether it is negative, and its digits. -/
inductive SpellsInteger : Bool × List Char → List Char → Prop
  | signed {negative : Bool} {sign digits : List Char} (hsign : IsSign negative sign)
      (h : IsDigits digits) : SpellsInteger (negative, digits) (sign ++ digits)

/-- A text that is an integer. -/
def IsInteger (cs : List Char) : Prop := ∃ integer, SpellsInteger integer cs

/-! ### Signs and digits -/

theorem exists_isSign (cs : List Char) :
    ∃ sign, IsSign (spanSign cs).1 sign ∧ cs = sign ++ (spanSign cs).2 := by
  unfold spanSign
  split
  · exact ⟨['-'], .minus, rfl⟩
  · exact ⟨['+'], .plus, rfl⟩
  · exact ⟨[], .missing, rfl⟩

/-- A sign is read before anything that is no sign itself. -/
theorem spanSign_append {negative : Bool} {sign cs : List Char} (h : IsSign negative sign)
    (hcs : ∀ c, cs.head? = some c → c ≠ '+' ∧ c ≠ '-') :
    spanSign (sign ++ cs) = (negative, cs) := by
  cases h with
  | plus => rfl
  | minus => rfl
  | missing =>
      cases cs with
      | nil => rfl
      | cons c cs =>
          obtain ⟨hplus, hminus⟩ := hcs c rfl
          simp [spanSign, hplus, hminus]

theorem spanDigits_append {digits : List Char} (h : ∀ c ∈ digits, isDigit c = true)
    (cs : List Char) :
    spanDigits (digits ++ cs) = (digits ++ (spanDigits cs).1, (spanDigits cs).2) := by
  rw [spanDigits, List.takeWhile_append_of_pos h, List.dropWhile_append_of_pos h]
  rfl

theorem spanDigits_of_head? {cs : List Char} (h : ∀ c, cs.head? = some c → isDigit c = false) :
    spanDigits cs = ([], cs) := by
  cases cs with
  | nil => rfl
  | cons c cs =>
      have hc : ¬ isDigit c = true := by simp [h c rfl]
      rw [spanDigits, List.takeWhile_cons_of_neg hc, List.dropWhile_cons_of_neg hc]

theorem append_spanDigits (cs : List Char) : (spanDigits cs).1 ++ (spanDigits cs).2 = cs :=
  List.takeWhile_append_dropWhile

theorem isDigit_of_mem_spanDigits {cs : List Char} :
    ∀ c ∈ (spanDigits cs).1, isDigit c = true :=
  fun _ hc => List.mem_takeWhile_imp hc

theorem length_spanDigits_le (cs : List Char) : (spanDigits cs).2.length ≤ cs.length :=
  (List.dropWhile_sublist _).length_le

theorem IsDigits.exists_cons {cs : List Char} (h : IsDigits cs) :
    ∃ c rest, cs = c :: rest ∧ isDigit c = true := by
  obtain ⟨c, rest, rfl⟩ := List.exists_cons_of_ne_nil h.1
  exact ⟨c, rest, rfl, h.2 c (by simp)⟩

theorem ne_of_isDigit {c other : Char} (h : isDigit c = true) (hother : isDigit other = false) :
    c ≠ other := by
  intro heq
  rw [heq, hother] at h
  cases h

/-- Digits do not begin with a sign. -/
theorem IsDigits.head {digits : List Char} (h : IsDigits digits) (rest : List Char) :
    ∀ c, (digits ++ rest).head? = some c → c ≠ '+' ∧ c ≠ '-' := by
  obtain ⟨first, more, rfl, hfirst⟩ := h.exists_cons
  intro c hc
  cases hc
  exact ⟨ne_of_isDigit hfirst (by decide), ne_of_isDigit hfirst (by decide)⟩

/-! ### Digits and fraction -/

theorem spanDigitsAndFraction?_of_point {cs whole after : List Char}
    (h : spanDigits cs = (whole, '.' :: after)) :
    spanDigitsAndFraction? cs =
      if whole.isEmpty && (spanDigits after).1.isEmpty then none
      else some (whole, (spanDigits after).1, (spanDigits after).2) := by
  unfold spanDigitsAndFraction?
  rw [h]
  rfl

theorem spanDigitsAndFraction?_of_no_point {cs whole rest : List Char}
    (h : spanDigits cs = (whole, rest)) (hrest : ∀ after, rest ≠ '.' :: after) :
    spanDigitsAndFraction? cs = if whole.isEmpty then none else some (whole, [], rest) := by
  unfold spanDigitsAndFraction?
  rw [h]
  dsimp only
  split
  · next after => exact absurd rfl (hrest after)
  · rfl

/-- What is read of digits and a fraction has their form. -/
theorem isDecimal_of_spanDigitsAndFraction? {cs whole fraction rest : List Char}
    (h : spanDigitsAndFraction? cs = some (whole, fraction, rest)) :
    ∃ mantissa, IsDecimal whole fraction mantissa ∧ cs = mantissa ++ rest := by
  have hcs := append_spanDigits cs
  have hdigits : ∀ c ∈ (spanDigits cs).1, isDigit c = true := isDigit_of_mem_spanDigits
  cases hspan : spanDigits cs with
  | mk before behind =>
      rw [hspan] at hcs hdigits
      dsimp only at hcs hdigits
      by_cases hpoint : ∃ after, behind = '.' :: after
      · obtain ⟨after, rfl⟩ := hpoint
        have hafter := append_spanDigits after
        have hfraction : ∀ c ∈ (spanDigits after).1, isDigit c = true := isDigit_of_mem_spanDigits
        rw [spanDigitsAndFraction?_of_point hspan, Option.ite_none_left_eq_some] at h
        obtain ⟨hne, h⟩ := h
        cases h
        rw [← hcs]
        by_cases hwhole : whole = []
        · subst hwhole
          have hsome : (spanDigits after).1 ≠ [] := by simpa using hne
          exact ⟨_, .fraction ⟨hsome, hfraction⟩, by simp [hafter]⟩
        · exact ⟨_, .point ⟨hwhole, hdigits⟩ hfraction, by simp [hafter]⟩
      · rw [spanDigitsAndFraction?_of_no_point hspan (not_exists.mp hpoint),
          Option.ite_none_left_eq_some] at h
        obtain ⟨hne, h⟩ := h
        cases h
        exact ⟨_, .whole ⟨by simpa using hne, hdigits⟩, hcs.symm⟩

/-- After a point the digits of the fraction are read, and those that follow them. -/
theorem spanDigitsAndFraction?_point {whole fraction : List Char}
    (hwhole : ∀ c ∈ whole, isDigit c = true) (hfraction : ∀ c ∈ fraction, isDigit c = true)
    (hne : whole ≠ [] ∨ fraction ≠ []) (rest : List Char) :
    spanDigitsAndFraction? (whole ++ '.' :: (fraction ++ rest)) =
      some (whole, fraction ++ (spanDigits rest).1, (spanDigits rest).2) := by
  have hpoint : spanDigits ('.' :: (fraction ++ rest)) = ([], '.' :: (fraction ++ rest)) := by
    refine spanDigits_of_head? fun c hc => ?_
    cases hc
    decide
  have hspan := spanDigits_append hwhole ('.' :: (fraction ++ rest))
  rw [hpoint, List.append_nil] at hspan
  rw [spanDigitsAndFraction?_of_point hspan, spanDigits_append hfraction, if_neg]
  rcases hne with hne | hne <;> simp [hne]

/-- A number with digits and a fraction is read as far as it goes, and further only if a digit or
a point follows. -/
theorem exists_spanDigitsAndFraction? {whole fraction mantissa : List Char}
    (h : IsDecimal whole fraction mantissa) (rest : List Char) :
    ∃ whole' fraction' rest',
      spanDigitsAndFraction? (mantissa ++ rest) = some (whole', fraction', rest') ∧
      rest'.length ≤ rest.length ∧
      ((∀ c, rest.head? = some c → isDigit c = false ∧ c ≠ '.') →
        whole' = whole ∧ fraction' = fraction ∧ rest' = rest) := by
  have hlength := length_spanDigits_le rest
  have hstop : (∀ c, rest.head? = some c → isDigit c = false ∧ c ≠ '.') →
      spanDigits rest = ([], rest) := fun hrest =>
    spanDigits_of_head? fun c hc => (hrest c hc).1
  cases h with
  | point h h' =>
      have hread := spanDigitsAndFraction?_point h.2 h' (.inl h.1) rest
      rw [← List.cons_append, ← List.append_assoc] at hread
      refine ⟨_, _, _, hread, hlength, fun hrest => ?_⟩
      rw [hstop hrest, List.append_nil]
      exact ⟨rfl, rfl, rfl⟩
  | fraction h =>
      have hnone : ∀ c ∈ ([] : List Char), isDigit c = true := nofun
      have hread := spanDigitsAndFraction?_point hnone h.2 (.inr h.1) rest
      refine ⟨_, _, _, hread, hlength, fun hrest => ?_⟩
      rw [hstop hrest, List.append_nil]
      exact ⟨rfl, rfl, rfl⟩
  | whole h =>
      have hspan := spanDigits_append h.2 rest
      have hne : whole ++ (spanDigits rest).1 ≠ [] := List.append_ne_nil_of_left_ne_nil h.1 _
      by_cases hpoint : ∃ after, (spanDigits rest).2 = '.' :: after
      · -- The point is read although it was not part of the number.
        obtain ⟨after, hafter⟩ := hpoint
        have hafterLength := length_spanDigits_le after
        rw [hafter] at hspan
        rw [hafter, List.length_cons] at hlength
        refine ⟨_, _, _, (spanDigitsAndFraction?_of_point hspan).trans (if_neg ?_),
          by omega, fun hrest => ?_⟩
        · simp [h.1]
        · rw [hstop hrest] at hafter
          exact absurd rfl (hrest '.' (congrArg List.head? hafter)).2
      · have hread := spanDigitsAndFraction?_of_no_point hspan (not_exists.mp hpoint)
        rw [if_neg (by simpa using hne)] at hread
        refine ⟨_, _, _, hread, hlength, fun hrest => ?_⟩
        rw [hstop hrest, List.append_nil]
        exact ⟨rfl, rfl, rfl⟩

/-! ### Exponents -/

theorem spanExponent_of_mark {mark : Char} (hmark : mark = 'e' ∨ mark = 'E') (rest : List Char) :
    spanExponent (mark :: rest) =
      if (spanDigits (spanSign rest).2).1.isEmpty then (0, mark :: rest)
      else (signed (spanSign rest).1 (value (spanDigits (spanSign rest).2).1),
        (spanDigits (spanSign rest).2).2) := by
  have hguard : (mark == 'e' || mark == 'E') = true := by simpa using hmark
  rw [spanExponent, if_pos hguard]

/-- What is read of an exponent has its form. -/
theorem isExponent_spanExponent (cs : List Char) :
    ∃ power, IsExponent (spanExponent cs).1 power ∧ cs = power ++ (spanExponent cs).2 := by
  cases cs with
  | nil => exact ⟨[], .missing, rfl⟩
  | cons mark rest =>
      by_cases hmark : mark = 'e' ∨ mark = 'E'
      · obtain ⟨sign, hsign, hrest⟩ := exists_isSign rest
        have hdigits := append_spanDigits (spanSign rest).2
        rw [spanExponent_of_mark hmark]
        by_cases hnone : (spanDigits (spanSign rest).2).1 = []
        · rw [hnone]
          exact ⟨[], .missing, rfl⟩
        · have hpresent := IsExponent.present hmark hsign ⟨hnone, isDigit_of_mem_spanDigits⟩
          simp only [List.isEmpty_iff, hnone, if_false]
          refine ⟨_, hpresent, ?_⟩
          rw [List.cons_append, List.append_assoc, hdigits, ← hrest]
      · have hguard : ¬ (mark == 'e' || mark == 'E') = true := by simpa using hmark
        rw [spanExponent, if_neg hguard]
        exact ⟨[], .missing, rfl⟩

/-- An exponent is read to its end, and further only if a digit follows. -/
theorem spanExponent_append {exponent : Int} {power : List Char} (h : IsExponent exponent power)
    (rest : List Char) :
    (spanExponent (power ++ rest)).2.length ≤ rest.length ∧
      (rest = [] → spanExponent (power ++ rest) = (exponent, [])) := by
  cases h with
  | missing =>
      obtain ⟨power, -, hrest⟩ := isExponent_spanExponent rest
      have hlength := congrArg List.length hrest
      rw [List.length_append] at hlength
      refine ⟨by rw [List.nil_append]; omega, fun hnil => ?_⟩
      subst hnil
      rfl
  | present hmark hsign h =>
      have hlength := length_spanDigits_le rest
      rw [List.cons_append, List.append_assoc, spanExponent_of_mark hmark,
        spanSign_append hsign (h.head rest), spanDigits_append h.2]
      simp only [List.isEmpty_iff, List.append_eq_nil_iff, h.1, false_and, if_false]
      refine ⟨hlength, fun hnil => ?_⟩
      subst hnil
      rw [spanDigits_of_head? (by simp), List.append_nil]

/-! ### Magnitudes -/

theorem IsDecimal.head {whole fraction mantissa : List Char}
    (h : IsDecimal whole fraction mantissa) :
    ∃ c rest, mantissa = c :: rest ∧ (isDigit c = true ∨ c = '.') := by
  cases h with
  | fraction h => exact ⟨'.', _, rfl, .inr rfl⟩
  | whole h =>
      obtain ⟨c, rest, heq, hc⟩ := h.exists_cons
      exact ⟨c, rest, heq, .inl hc⟩
  | point h h' =>
      obtain ⟨c, rest, heq, hc⟩ := h.exists_cons
      exact ⟨c, _, by rw [heq, List.cons_append], .inl hc⟩

/-- An exponent begins with what neither digits nor a fraction go on with. -/
theorem IsExponent.head {exponent : Int} {power : List Char} (h : IsExponent exponent power)
    (hne : power ≠ []) (rest : List Char) :
    ∀ c, (power ++ rest).head? = some c → isDigit c = false ∧ c ≠ '.' := by
  cases h with
  | missing => exact absurd rfl hne
  | present hmark hsign h =>
      intro c hc
      cases hc
      rcases hmark with rfl | rfl <;> decide

/-- What is read of a number without its sign has its form. -/
theorem isMagnitude_of_magnitude? {negative : Bool} {cs rest : List Char} {x : Binary64}
    (h : magnitude? negative cs = some (x, rest)) :
    ∃ magnitude, IsMagnitude negative x magnitude ∧ cs = magnitude ++ rest := by
  unfold magnitude? at h
  by_cases hinfinity : "Infinity".toList.isPrefixOf cs = true
  · rw [if_pos hinfinity] at h
    cases h
    obtain ⟨rest, rfl⟩ := List.isPrefixOf_iff_prefix.mp hinfinity
    exact ⟨_, .infinity, rfl⟩
  · rw [if_neg hinfinity] at h
    cases hspan : spanDigitsAndFraction? cs with
    | none =>
        rw [hspan] at h
        cases h
    | some spanned =>
        obtain ⟨whole, fraction, after⟩ := spanned
        obtain ⟨mantissa, hmantissa, rfl⟩ := isDecimal_of_spanDigitsAndFraction? hspan
        obtain ⟨power, hpower, hafter⟩ := isExponent_spanExponent after
        rw [hspan] at h
        simp only [Binary64.ofDecimal_eq, Option.some_inj] at h
        obtain ⟨rfl, rfl⟩ := Prod.mk.inj h
        exact ⟨_, .decimal hmantissa hpower, by rw [List.append_assoc, ← hafter]⟩

/-- **A number without its sign is read to its end**, and further only if more of it follows. -/
theorem exists_magnitude?_append {negative : Bool} {x : Binary64} {magnitude : List Char}
    (h : IsMagnitude negative x magnitude) (rest : List Char) :
    ∃ y rest', magnitude? negative (magnitude ++ rest) = some (y, rest') ∧
      rest'.length ≤ rest.length ∧ (rest = [] → y = x) := by
  cases h with
  | infinity =>
      have hprefix : "Infinity".toList.isPrefixOf ("Infinity".toList ++ rest) = true :=
        List.isPrefixOf_iff_prefix.mpr (List.prefix_append _ _)
      refine ⟨.infinity negative, rest, ?_, Nat.le_refl _, fun _ => rfl⟩
      unfold magnitude?
      rw [if_pos hprefix]
      rfl
  | @decimal whole fraction mantissa power exponent h h' =>
      have hfinite : ¬ "Infinity".toList.isPrefixOf (mantissa ++ power ++ rest) = true := by
        obtain ⟨c, more, heq, hc⟩ := h.head
        have hne : c ≠ 'I' := by
          rcases hc with hc | rfl
          · exact ne_of_isDigit hc (by decide)
          · decide
        rw [heq]
        simp [List.isPrefixOf, hne.symm]
      obtain ⟨whole', fraction', after, hspan, hlength, hstop⟩ :=
        exists_spanDigitsAndFraction? h (power ++ rest)
      rw [← List.append_assoc] at hspan
      unfold magnitude?
      rw [if_neg hfinite, hspan]
      dsimp only
      refine ⟨_, _, rfl, ?_, fun hnil => ?_⟩
      · by_cases hnone : power = []
        · subst hnone
          obtain ⟨_, -, hafter⟩ := isExponent_spanExponent after
          have hafterLength := congrArg List.length hafter
          rw [List.length_append] at hafterLength
          rw [List.nil_append] at hlength
          omega
        · obtain ⟨-, -, rfl⟩ := hstop (h'.head hnone rest)
          exact (spanExponent_append h' rest).1
      · have hread : whole' = whole ∧ fraction' = fraction ∧ after = power ++ rest := by
          subst hnil
          by_cases hnone : power = []
          · subst hnone
            exact hstop nofun
          · exact hstop (h'.head hnone [])
        obtain ⟨rfl, rfl, rfl⟩ := hread
        rw [(spanExponent_append h' rest).2 hnil, Binary64.ofDecimal_eq]

theorem IsMagnitude.head {negative : Bool} {x : Binary64} {magnitude : List Char}
    (h : IsMagnitude negative x magnitude) (rest : List Char) :
    ∀ c, (magnitude ++ rest).head? = some c → c ≠ '+' ∧ c ≠ '-' := by
  cases h with
  | infinity =>
      intro c hc
      cases hc
      decide
  | decimal h h' =>
      obtain ⟨first, more, rfl, hfirst⟩ := h.head
      intro c hc
      cases hc
      rcases hfirst with hfirst | rfl
      · exact ⟨ne_of_isDigit hfirst (by decide), ne_of_isDigit hfirst (by decide)⟩
      · decide

/-! ### Numbers -/

/-- The number at the front of a text without blanks before it. -/
def signed? (cs : List Char) : Option (Binary64 × List Char) :=
  magnitude? (spanSign cs).1 (spanSign cs).2

theorem readsLongest_signed? : ReadsLongest Spells signed? where
  sound := by
    intro cs x rest h
    obtain ⟨sign, hsign, hcs⟩ := exists_isSign cs
    obtain ⟨magnitude, hmagnitude, hrest⟩ := isMagnitude_of_magnitude? h
    refine ⟨_, .signed hsign hmagnitude, ?_⟩
    rw [List.append_assoc, ← hrest, ← hcs]
  complete := by
    intro x p h rest
    obtain ⟨hsign, h⟩ := h
    unfold signed?
    rw [List.append_assoc, spanSign_append hsign (h.head rest)]
    exact exists_magnitude?_append h rest

/-- **The number that is read is the longest one** that the text begins with. -/
theorem float?_eq_some {s : String} {x : Binary64} : float? s = some x ↔
    ∃ p, IsLongest IsNumber (trimStart s.toList) p ∧ Spells x p :=
  readsLongest_signed?.eq_some

theorem float?_eq_none {s : String} :
    float? s = none ↔ ∀ p, p <+: trimStart s.toList → ¬ IsNumber p := by
  rw [float?, Option.map_eq_none_iff]
  exact readsLongest_signed?.eq_none

/-! ### Integers -/

/-- The integer at the front of a text without blanks before it, and what follows it. -/
def signedDigits? (cs : List Char) : Option ((Bool × List Char) × List Char) :=
  let (digits, rest) := spanDigits (spanSign cs).2
  if digits.isEmpty then none else some (((spanSign cs).1, digits), rest)

theorem integerDigits?_eq (cs : List Char) :
    integerDigits? cs = (signedDigits? (trimStart cs)).map Prod.fst := by
  unfold integerDigits? signedDigits?
  rw [apply_ite (Option.map _)]
  rfl

theorem readsLongest_signedDigits? : ReadsLongest SpellsInteger signedDigits? where
  sound := by
    intro cs integer rest h
    obtain ⟨sign, hsign, hcs⟩ := exists_isSign cs
    have hspan := append_spanDigits (spanSign cs).2
    unfold signedDigits? at h
    rw [Option.ite_none_left_eq_some, Option.some_inj] at h
    obtain ⟨hne, h⟩ := h
    obtain ⟨rfl, rfl⟩ := Prod.mk.inj h
    refine ⟨_, .signed hsign ⟨by simpa using hne, isDigit_of_mem_spanDigits⟩, ?_⟩
    rw [List.append_assoc, hspan, ← hcs]
  complete := by
    intro integer p h rest
    obtain ⟨hsign, h⟩ := h
    unfold signedDigits?
    rw [List.append_assoc, spanSign_append hsign (h.head rest), spanDigits_append h.2]
    refine ⟨_, _, if_neg (by simp [h.1]), length_spanDigits_le rest, fun hnil => ?_⟩
    subst hnil
    rw [spanDigits_of_head? (by simp), List.append_nil]

/-- **The integer that is read is the longest one** that the text begins with. -/
theorem integerDigits?_eq_some {cs digits : List Char} {negative : Bool} :
    integerDigits? cs = some (negative, digits) ↔
      ∃ p, IsLongest IsInteger (trimStart cs) p ∧ SpellsInteger (negative, digits) p := by
  rw [integerDigits?_eq]
  exact readsLongest_signedDigits?.eq_some

theorem integerDigits?_eq_none {cs : List Char} :
    integerDigits? cs = none ↔ ∀ p, p <+: trimStart cs → ¬ IsInteger p := by
  rw [integerDigits?_eq, Option.map_eq_none_iff]
  exact readsLongest_signedDigits?.eq_none

end Leading

end RowShell
