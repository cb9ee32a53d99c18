/-
Splitting a type declaration.

The base of a declaration ends at its first parenthesis, while the size is looked for in the whole
text, so the two may come from different parentheses: `decimal(5,2) (3)` has the base `decimal` and
the size 3.  Where the first parenthesis holds a number and nothing else, they do not.

`IsBound` says what bounds a size without a search: digits of any script, alone between
parentheses.  The search takes the leftmost of them.  It never goes back, and need not: a closing
parenthesis is no digit, so at each place there is at most one number that could be meant.
-/
import RowShell.Column.Declaration
import RowShell.Proofs.Number.Longest
import RowShell.Proofs.Number.Numeral
import RowShell.Proofs.Outcome

namespace RowShell

namespace Text

variable {cs : List Char}

/-! ### Trimming -/

/-- What is trimmed does not begin with a blank. -/
theorem head?_trimStart {c : Char} (h : (trimStart cs).head? = some c) : isBlank c = false := by
  have hnot := List.head?_dropWhile_not isBlank cs
  rw [← trimStart, h] at hnot
  simpa using hnot

theorem trimEnd_isPrefix (cs : List Char) : trimEnd cs <+: cs := by
  rw [← List.reverse_suffix, trimEnd, List.reverse_reverse]
  exact List.dropWhile_suffix _

theorem getLast?_trimEnd {c : Char} (h : (trimEnd cs).getLast? = some c) : isBlank c = false := by
  rw [trimEnd, List.getLast?_reverse] at h
  exact head?_trimStart h

theorem head?_trim {c : Char} (h : (trim cs).head? = some c) : isBlank c = false := by
  obtain ⟨rest, hrest⟩ := trimEnd_isPrefix (trimStart cs)
  have hfirst : (trimStart cs).head? = some c := by
    rw [← hrest, List.head?_append, ← trim, h]
    rfl
  exact head?_trimStart hfirst

theorem mem_of_mem_trim {c : Char} (h : c ∈ trim cs) : c ∈ cs :=
  (List.dropWhile_suffix isBlank).subset ((trimEnd_isPrefix _).subset h)

/-- Nothing is left only of blanks. -/
theorem isBlank_of_trim_eq_nil (h : trim cs = []) : ∀ c ∈ cs, isBlank c = true := by
  rw [trim, trimEnd, List.reverse_eq_nil_iff] at h
  have hend : ∀ c ∈ trimStart cs, isBlank c = true := by
    intro c hc
    exact List.dropWhile_eq_nil_iff.mp h c (List.mem_reverse.mpr hc)
  have hstart : trimStart cs = [] := by
    cases hcs : trimStart cs with
    | nil => rfl
    | cons c rest =>
        have hfirst : (trimStart cs).head? = some c := by rw [hcs, List.head?_cons]
        have hblank := hend c (by simp [hcs])
        rw [head?_trimStart hfirst] at hblank
        cases hblank
  exact List.dropWhile_eq_nil_iff.mp hstart

end Text

namespace Declaration

open Text Outcome

variable {cs before digits after rest : List Char}

/-! ### The base -/

/-- The name of a base type: not empty, without a parenthesis and without blanks around it. -/
structure IsBase (name : String) : Prop where
  nonempty : name.toList ≠ []
  unparenthesized : '(' ∉ name.toList
  first : ∀ c, name.toList.head? = some c → isBlank c = false
  last : ∀ c, name.toList.getLast? = some c → isBlank c = false

theorem isBase_noBase : IsBase noBase := by
  constructor <;> simp [noBase, isBlank, isWhiteSpace]

theorem isBase_baseOf (cs : List Char) : IsBase (baseOf cs) := by
  unfold baseOf
  dsimp only
  by_cases hnone : (trim (cs.takeWhile (· != '('))).isEmpty = true
  · rw [if_pos hnone]
    exact isBase_noBase
  · rw [if_neg hnone]
    constructor
    · simpa using hnone
    · rw [String.toList_ofList]
      intro hmem
      have hparen := List.mem_takeWhile_imp (mem_of_mem_trim hmem)
      simp at hparen
    · rw [String.toList_ofList]
      intro c hc
      exact head?_trim hc
    · rw [String.toList_ofList]
      intro c hc
      exact getLast?_trimEnd hc

/-- The base is what stands before the first parenthesis, trimmed, unless that is blank. -/
theorem baseOf_append (hparen : '(' ∉ cs) (hnamed : ∃ c ∈ cs, isBlank c = false)
    (rest : List Char) : baseOf (cs ++ '(' :: rest) = String.ofList (trim cs) := by
  have hbefore : (cs ++ '(' :: rest).takeWhile (· != '(') = cs := by
    rw [List.takeWhile_append_of_pos, List.takeWhile_cons_of_neg (by simp), List.append_nil]
    intro c hc
    have hne : c ≠ '(' := fun heq => hparen (heq ▸ hc)
    simpa using hne
  have hsome : trim cs ≠ [] := by
    intro hnil
    obtain ⟨c, hc, hnot⟩ := hnamed
    rw [isBlank_of_trim_eq_nil hnil c hc] at hnot
    cases hnot
  rw [baseOf, hbefore]
  simp [hsome]

/-! ### The size -/

/-- Digits of any script, alone between parentheses, with what stands before and after them. -/
structure IsBound (cs before digits after : List Char) : Prop where
  eq_append : cs = before ++ '(' :: (digits ++ ')' :: after)
  digits : Leading.IsDigits digits

/-- The digits of the leftmost bound. -/
def IsFirstBound (cs digits : List Char) : Prop :=
  ∃ before after, IsBound cs before digits after ∧
    ∀ before' digits' after', IsBound cs before' digits' after' → before.length ≤ before'.length

/-- The text holds no bound. -/
def Unbounded (cs : List Char) : Prop := ∀ before digits after, ¬ IsBound cs before digits after

theorem isBound_cons {c d : Char} :
    IsBound (c :: cs) (d :: before) digits after ↔ c = d ∧ IsBound cs before digits after := by
  constructor
  · intro h
    obtain ⟨heq, hdigits⟩ := h
    obtain ⟨rfl, hrest⟩ := List.cons.inj heq
    exact ⟨rfl, hrest, hdigits⟩
  · intro h
    obtain ⟨rfl, heq, hdigits⟩ := h
    exact ⟨congrArg _ heq, hdigits⟩

/-- The digits after a parenthesis end at the closing one. -/
theorem IsBound.spanDigits_eq (h : IsBound ('(' :: rest) [] digits after) :
    Numeral.spanDigits rest = (digits, ')' :: after) := by
  have hrest : rest = digits ++ ')' :: after := (List.cons.inj h.eq_append).2
  have hstop : Numeral.spanDigits (')' :: after) = ([], ')' :: after) := by
    apply Leading.spanDigits_of_head?
    intro c hc
    cases hc
    decide
  rw [hrest, Leading.spanDigits_append h.digits.2, hstop, List.append_nil]

/-- A bound at the front is taken. -/
theorem sizeDigits?_of_isBound (h : IsBound cs [] digits after) :
    sizeDigits? cs = some digits := by
  obtain ⟨rest, rfl⟩ : ∃ rest, cs = '(' :: rest := ⟨_, h.eq_append⟩
  rw [sizeDigits?, h.spanDigits_eq]
  simp [h.digits.1]

/-- Where there is none the search goes on. -/
theorem sizeDigits?_cons {c : Char} (h : ∀ digits after, ¬ IsBound (c :: cs) [] digits after) :
    sizeDigits? (c :: cs) = sizeDigits? cs := by
  rw [sizeDigits?]
  dsimp only
  rw [if_neg]
  intro hfound
  simp only [Bool.and_eq_true, beq_iff_eq, Bool.not_eq_true', List.isEmpty_eq_false_iff] at hfound
  obtain ⟨⟨rfl, hne⟩, hclosing⟩ := hfound
  obtain ⟨after, hafter⟩ := List.head?_eq_some_iff.mp hclosing
  refine h _ after ⟨?_, hne, Leading.isDigit_of_mem_spanDigits⟩
  rw [← hafter, Leading.append_spanDigits]
  rfl

theorem isFirstBound_of_sizeDigits? (h : sizeDigits? cs = some digits) :
    IsFirstBound cs digits := by
  induction cs with
  | nil => cases h
  | cons c cs ih =>
      by_cases hfront : ∃ digits after, IsBound (c :: cs) [] digits after
      · obtain ⟨digits', after, hbound⟩ := hfront
        rw [sizeDigits?_of_isBound hbound, Option.some_inj] at h
        subst h
        exact ⟨[], after, hbound, fun _ _ _ _ => Nat.zero_le _⟩
      · have hnone : ∀ digits after, ¬ IsBound (c :: cs) [] digits after := by
          intro digits after hbound
          exact hfront ⟨digits, after, hbound⟩
        rw [sizeDigits?_cons hnone] at h
        obtain ⟨before, after, hbound, hfirst⟩ := ih h
        refine ⟨c :: before, after, isBound_cons.mpr ⟨rfl, hbound⟩, ?_⟩
        intro before' digits' after' hbound'
        cases before' with
        | nil => exact absurd hbound' (hnone _ _)
        | cons d before' =>
            have hle := hfirst _ _ _ (isBound_cons.mp hbound').2
            simpa using hle

theorem unbounded_of_sizeDigits? (h : sizeDigits? cs = none) : Unbounded cs := by
  induction cs with
  | nil =>
      intro before digits after hbound
      simpa using hbound.eq_append
  | cons c cs ih =>
      intro before digits after hbound
      have hnone : ∀ digits after, ¬ IsBound (c :: cs) [] digits after := by
        intro digits after hfront
        rw [sizeDigits?_of_isBound hfront] at h
        cases h
      rw [sizeDigits?_cons hnone] at h
      cases before with
      | nil => exact hnone _ _ hbound
      | cons d before => exact ih h _ _ _ (isBound_cons.mp hbound).2

/-- There is one leftmost bound only. -/
theorem IsFirstBound.unique {digits' : List Char} (h : IsFirstBound cs digits)
    (h' : IsFirstBound cs digits') : digits = digits' := by
  obtain ⟨before, after, hbound, hfirst⟩ := h
  obtain ⟨before', after', hbound', hfirst'⟩ := h'
  have hlength : before.length = before'.length :=
    Nat.le_antisymm (hfirst _ _ _ hbound') (hfirst' _ _ _ hbound)
  have hrest := (List.append_inj (hbound.eq_append.symm.trans hbound'.eq_append) hlength).2
  have hspan := IsBound.spanDigits_eq ⟨hrest, hbound'.digits⟩
  rw [IsBound.spanDigits_eq ⟨rfl, hbound.digits⟩] at hspan
  exact (Prod.mk.inj hspan).1

/-- **The search finds the leftmost bound.** -/
theorem sizeDigits?_eq_some : sizeDigits? cs = some digits ↔ IsFirstBound cs digits := by
  refine ⟨isFirstBound_of_sizeDigits?, ?_⟩
  intro h
  cases hfound : sizeDigits? cs with
  | none =>
      obtain ⟨before, after, hbound, -⟩ := h
      exact absurd hbound (unbounded_of_sizeDigits? hfound _ _ _)
  | some digits' => rw [(isFirstBound_of_sizeDigits? hfound).unique h]

/-- **It finds nothing only where there is none.** -/
theorem sizeDigits?_eq_none : sizeDigits? cs = none ↔ Unbounded cs := by
  refine ⟨unbounded_of_sizeDigits?, ?_⟩
  intro h
  cases hfound : sizeDigits? cs with
  | none => rfl
  | some digits =>
      obtain ⟨before, after, hbound, -⟩ := isFirstBound_of_sizeDigits? hfound
      exact absurd hbound (h _ _ _)

/-- The first parenthesis holds a bound if digits stand there alone. -/
theorem isFirstBound_append (hparen : '(' ∉ before) (hdigits : Leading.IsDigits digits)
    (after : List Char) : IsFirstBound (before ++ '(' :: (digits ++ ')' :: after)) digits := by
  refine ⟨before, after, ⟨rfl, hdigits⟩, ?_⟩
  intro before' digits' after' hbound
  by_contra hshort
  have htake := congrArg (List.take (before'.length + 1)) hbound.eq_append
  rw [List.take_append_of_le_length (by omega)] at htake
  have hmem : '(' ∈ before.take (before'.length + 1) := by
    rw [htake, List.take_append]
    simp
  exact hparen (List.mem_of_mem_take hmem)

theorem unbounded_or_exists_isFirstBound (cs : List Char) :
    Unbounded cs ∨ ∃ digits, IsFirstBound cs digits := by
  cases hfound : sizeDigits? cs with
  | none => exact .inl (sizeDigits?_eq_none.mp hfound)
  | some digits => exact .inr ⟨digits, sizeDigits?_eq_some.mp hfound⟩

theorem not_isFirstBound_of_unbounded (h : Unbounded cs) : ¬ IsFirstBound cs digits := by
  intro hfirst
  obtain ⟨before, after, hbound, -⟩ := hfirst
  exact h _ _ _ hbound

/-- What a text says about the size. -/
def IsSize (cs : List Char) : Option Nat → Prop
  | none => Unbounded cs
  | some n => ∃ digits, IsFirstBound cs digits ∧ Numeral.value digits = n

/-! ### Declarations -/

theorem read_of_unbounded {text : String} (h : Unbounded text.toList) :
    read text = .ok ⟨baseOf text.toList, none⟩ := by
  rw [read, sizeOf?, sizeDigits?_eq_none.mpr h]
  rfl

theorem read_of_isFirstBound {text : String} (h : IsFirstBound text.toList digits) :
    read text = if digits.length ≤ Numeral.maxDigits then
      .ok ⟨baseOf text.toList, some (Numeral.value digits)⟩ else .error .longNumeral := by
  rw [read, sizeOf?, sizeDigits?_eq_some.mpr h]
  dsimp only
  rw [Numeral.value?]
  by_cases hshort : digits.length ≤ Numeral.maxDigits
  · rw [if_pos hshort, if_pos hshort]
    rfl
  · rw [if_neg hshort, if_neg hshort]
    rfl

/-- What is read is a base and the size of the text. -/
theorem isSize_of_read {text : String} {d : Declaration} (h : read text = .ok d) :
    IsBase d.base ∧ IsSize text.toList d.size := by
  rcases unbounded_or_exists_isFirstBound text.toList with hnone | ⟨digits, hfirst⟩
  · rw [read_of_unbounded hnone] at h
    cases h
    exact ⟨isBase_baseOf _, hnone⟩
  · rw [read_of_isFirstBound hfirst] at h
    by_cases hshort : digits.length ≤ Numeral.maxDigits
    · rw [if_pos hshort] at h
      cases h
      exact ⟨isBase_baseOf _, digits, hfirst, rfl⟩
    · rw [if_neg hshort] at h
      cases h

/-- Nothing but a size of too many digits keeps a declaration from being read. -/
theorem exists_read_iff {text : String} : (∃ d, read text = .ok d) ↔
    ∀ digits, IsFirstBound text.toList digits → digits.length ≤ Numeral.maxDigits := by
  rcases unbounded_or_exists_isFirstBound text.toList with hnone | ⟨digits, hfirst⟩
  · refine iff_of_true ⟨_, read_of_unbounded hnone⟩ ?_
    intro digits hfirst
    exact absurd hfirst (not_isFirstBound_of_unbounded hnone)
  · rw [read_of_isFirstBound hfirst]
    by_cases hshort : digits.length ≤ Numeral.maxDigits
    · rw [if_pos hshort]
      refine iff_of_true ⟨_, rfl⟩ ?_
      intro digits' hfirst'
      rwa [← hfirst.unique hfirst']
    · rw [if_neg hshort]
      exact iff_of_false nofun fun h => hshort (h digits hfirst)

theorem isDigits_numeral (n : Nat) : Leading.IsDigits (Numeral.ofNat n) := by
  have hdigits := Numeral.isDigits_ofNat n
  exact ⟨hdigits.1, fun c hc => Leading.isDigit_of_isAsciiDigit (hdigits.2 c hc)⟩

/-- A base with a number in parentheses after it is split there, whatever follows. -/
theorem read_append {base rest : String} {n : Nat} (hparen : '(' ∉ base.toList)
    (hnamed : ∃ c ∈ base.toList, isBlank c = false)
    (hshort : (Numeral.ofNat n).length ≤ Numeral.maxDigits) :
    read (base ++ "(" ++ String.ofList (Numeral.ofNat n) ++ ")" ++ rest) =
      .ok ⟨strip base, some n⟩ := by
  have htext : (base ++ "(" ++ String.ofList (Numeral.ofNat n) ++ ")" ++ rest).toList =
      base.toList ++ '(' :: (Numeral.ofNat n ++ ')' :: rest.toList) := by
    simp
  have hfirst := isFirstBound_append hparen (isDigits_numeral n) rest.toList
  rw [← htext] at hfirst
  rw [read_of_isFirstBound hfirst, if_pos hshort, htext, baseOf_append hparen hnamed,
    Numeral.value_ofNat]
  rfl

/-- **Splitting a declaration is exact.**  What is read is a base without parenthesis or blanks
around it and the number of the leftmost bound, if there is one, and nothing but a bound of too
many digits keeps a declaration from being read.  A base with a number in parentheses after it
gives the base and the number, and a text without a bound gives no size. -/
theorem read_exact :
    (∀ text d, read text = .ok d → IsBase d.base ∧ IsSize text.toList d.size) ∧
    (∀ text, (∃ d, read text = .ok d) ↔
      ∀ digits, IsFirstBound text.toList digits → digits.length ≤ Numeral.maxDigits) ∧
    (∀ base n rest, '(' ∉ base.toList → (∃ c ∈ base.toList, isBlank c = false) →
      (Numeral.ofNat n).length ≤ Numeral.maxDigits →
      read (base ++ "(" ++ String.ofList (Numeral.ofNat n) ++ ")" ++ rest) =
        .ok ⟨strip base, some n⟩) ∧
    ∀ text, Unbounded text.toList → ∃ base, read text = .ok ⟨base, none⟩ := by
  refine ⟨fun text d => isSize_of_read, fun text => exists_read_iff, ?_, ?_⟩
  · intro base n rest hparen hnamed hshort
    exact read_append hparen hnamed hshort
  · intro text hnone
    exact ⟨_, read_of_unbounded hnone⟩

/-- A size from another parenthesis than the first, one before more parentheses, and none. -/
theorem read_exact_parentheses :
    read "decimal(5,2) (\u0663)" = .ok ⟨"decimal", some 3⟩ ∧ IsBase "decimal" ∧
      IsSize "decimal(5,2) (\u0663)".toList (some 3) ∧
      read ("native character " ++ "(" ++ String.ofList (Numeral.ofNat 20) ++ ")" ++ "(30)") =
        .ok ⟨"native character", some 20⟩ ∧
      Unbounded "decimal(5,2)".toList ∧ ∃ base, read "decimal(5,2)" = .ok ⟨base, none⟩ := by
  have hread : read "decimal(5,2) (\u0663)" = .ok ⟨"decimal", some 3⟩ := by decide
  have hnone : Unbounded "decimal(5,2)".toList := sizeDigits?_eq_none.mp (by decide)
  obtain ⟨hexact, -, happend, hunsized⟩ := read_exact
  obtain ⟨hbase, hsize⟩ := hexact _ _ hread
  have htwenty := happend "native character " 20 "(30)" (by decide) ⟨'n', by decide, by decide⟩
    (by decide)
  have hstrip : strip "native character " = "native character" := by decide
  exact ⟨hread, hbase, hsize, hstrip ▸ htwenty, hnone, hunsized _ hnone⟩

end Declaration

end RowShell
