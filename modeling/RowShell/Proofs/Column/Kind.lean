/-
The kinds of what is read back.

A column promises values of one kind, whatever the shell prints for it: `Category.Holds` lists
them.  The promise is kept for every printed value that can be read back, and `DecodingFault`
lists those that cannot, each with its fault.

A column without a type of its own also takes numbers from texts.  A text is replaced there only
by the finite number that it begins with, or by the infinity whose name it is.
-/
import RowShell.Proofs.Column.Failure

namespace RowShell

open Outcome

/-- The values that are read back for a column of a category. -/
def Category.Holds : Category → Value → Prop
  | .string, .null | .string, .text _ => True
  | .numeric, .null | .numeric, .int _ | .numeric, .float _ | .numeric, .text _ => True
  | .typeless, .null | .typeless, .int _ | .typeless, .float _ | .typeless, .text _ => True
  | .int, .null | .int, .int _ => True
  | .real, .null | .real, .float _ => True
  | .boolean, .null | .boolean, .bool _ => True
  | .datetime, .null | .datetime, .timestamp _ => True
  | .blob, .map [] => True
  | .unclassified, .null => True
  | _, _ => False

theorem Category.holds_null {category : Category} (h : category ≠ .blob) :
    category.Holds .null := by
  cases category with
  | blob => exact absurd rfl h
  | _ => trivial

namespace Column

variable {column : Column} {value result : Value} {fault : Fault}

/-! ### Kinds -/

theorem holds_decodeLoose (h : decodeLoose value = .ok result) :
    Category.numeric.Holds result ∧ Category.typeless.Holds result := by
  unfold decodeLoose at h
  split at h
  · cases h
    exact ⟨trivial, trivial⟩
  · cases h
    exact ⟨trivial, trivial⟩
  · obtain ⟨text, -, h⟩ := bind_eq_ok.mp h
    obtain ⟨number?, -, h⟩ := bind_eq_ok.mp h
    split at h
    · next x =>
        split at h
        · cases h
          exact ⟨trivial, trivial⟩
        · cases h
          exact ⟨trivial, trivial⟩
    · cases h
      exact ⟨trivial, trivial⟩

theorem holds_leadingWhole {text : String} (h : leadingWhole text = .ok result) :
    Category.int.Holds result := by
  unfold leadingWhole at h
  split at h
  · cases h
    trivial
  · split at h
    · cases h
      trivial
    · cases h

theorem holds_decodeWhole (h : decodeWhole value = .ok result) : Category.int.Holds result := by
  have counted : Category.int.Holds ((value.whole?.map Value.int).getD .null) := by
    cases value.whole? <;> trivial
  unfold decodeWhole at h
  split at h
  · cases h
    exact counted
  · cases h
    exact counted
  · cases h
    exact counted
  · obtain ⟨text, -, h⟩ := bind_eq_ok.mp h
    exact holds_leadingWhole h

theorem exists_of_decodeBoolean (h : decodeBoolean value = .ok result) : ∃ b, result = .bool b := by
  obtain ⟨number?, -, h⟩ := bind_eq_ok.mp h
  cases h
  exact ⟨_, rfl⟩

/-- **What is read back for a column is of its kind.** -/
theorem holds_decode (h : column.decode value = .ok result) : column.category.Holds result := by
  unfold decode at h
  generalize column.category = category at h ⊢
  split at h
  · cases h
    trivial
  · next hblob =>
      cases h
      exact Category.holds_null hblob
  · obtain ⟨b, rfl⟩ := exists_of_decodeBoolean h
    trivial
  · next hblob _ =>
      cases h
      exact Category.holds_null hblob
  · next hblob _ =>
      cases h
      exact Category.holds_null hblob
  · obtain ⟨text, -, h⟩ := bind_eq_ok.mp h
    cases h
    trivial
  · exact (holds_decodeLoose h).1
  · exact (holds_decodeLoose h).2
  · exact holds_decodeWhole h
  · obtain ⟨number?, -, h⟩ := bind_eq_ok.mp h
    cases h
    cases number? <;> trivial
  · generalize value.timestamp? = t? at h
    cases h
    cases t? <;> trivial
  · cases h
    trivial

/-- A column of Booleans reads null only from null. -/
theorem decode_boolean_eq_null_iff (hcategory : column.category = .boolean)
    (h : column.decode value = .ok result) : result = .null ↔ value = .null := by
  unfold decode at h
  rw [hcategory] at h
  cases value with
  | null =>
      cases h
      exact iff_of_true rfl rfl
  | _ =>
      obtain ⟨b, rfl⟩ := exists_of_decodeBoolean h
      exact iff_of_false nofun nofun

/-! ### Faults -/

/-- The printed values that cannot be read back for a column, and why. -/
inductive DecodingFault (column : Column) : Value → Fault → Prop
  | text {n : Int} (hcategory : column.category = .string) (h : Numeral.IsLong n) :
      DecodingFault column (.int n) .longNumeral
  | whole {s : String} (hcategory : column.category = .int) (h : LeadsTooLong s) :
      DecodingFault column (.text s) .longNumeral
  | number {n : Int} (hcategory : column.category = .real ∨ column.category = .boolean)
      (h : Binary64.IsBeyond n) : DecodingFault column (.int n) .beyondBinary64

theorem DecodingFault.undecodable (h : column.DecodingFault value fault) :
    column.Undecodable value ∧ fault = column.decodingFault := by
  unfold Undecodable decodingFault
  cases h with
  | text hcategory h =>
      rw [hcategory]
      exact ⟨h, rfl⟩
  | whole hcategory h =>
      rw [hcategory]
      exact ⟨h, rfl⟩
  | number hcategory h =>
      rcases hcategory with hcategory | hcategory <;> rw [hcategory] <;> exact ⟨h, rfl⟩

theorem Undecodable.decodingFault (h : column.Undecodable value) :
    column.DecodingFault value column.decodingFault := by
  unfold Undecodable at h
  unfold Column.decodingFault
  split at h
  · next hcategory =>
      rw [hcategory]
      exact .text hcategory h
  · next hcategory =>
      rw [hcategory]
      exact .number (.inr hcategory) h
  · next hcategory =>
      rw [hcategory]
      exact .number (.inl hcategory) h
  · next hcategory =>
      rw [hcategory]
      exact .whole hcategory h
  · exact h.elim

/-- **A printed value ends with a fault exactly in the cases listed.** -/
theorem decode_eq_error_iff :
    column.decode value = .error fault ↔ column.DecodingFault value fault := by
  rw [(column.onlyFault_decode value).eq_error_iff, fails_decode]
  constructor
  · intro h
    obtain ⟨h, rfl⟩ := h
    exact h.decodingFault
  · exact DecodingFault.undecodable

/-! ### Texts as numbers -/

/-- What a column without a type of its own makes of a text: the finite number that it begins
with, the infinity whose name it is, or otherwise the text itself. -/
inductive ReadsLoosely (s : String) : Value → Prop
  | finite {x : Binary64} (hread : Leading.float? s = some x) (h : x.isFinite = true) :
      ReadsLoosely s (.float x)
  | infinite {negative : Bool} (h : s = if negative then "-Infinity" else "Infinity") :
      ReadsLoosely s (.float (.infinity negative))
  | text (hread : ∀ x, Leading.float? s = some x → x.isFinite = false) (h : s ≠ "Infinity")
      (h' : s ≠ "-Infinity") : ReadsLoosely s (.text s)

theorem decodeLoose_text (s : String) : decodeLoose (.text s) = .ok (match Leading.float? s with
    | some x => if x.isFinite || x.numberText == s then .float x else .text s
    | none => .text s) := by
  cases hread : Leading.float? s with
  | none => simp [decodeLoose, Value.display, Value.leadingFloat?, hread]
  | some x => simp [decodeLoose, Value.display, Value.leadingFloat?, hread]

/-- The name of an infinity. -/
theorem numberText_infinity (negative : Bool) : (Binary64.infinity negative).numberText =
    if negative then "-Infinity" else "Infinity" := rfl

theorem float?_numberText_infinity (negative : Bool) :
    Leading.float? (Binary64.infinity negative).numberText = some (.infinity negative) := by
  cases negative <;> rfl

/-- A text that is not replaced has the name of no infinity. -/
theorem ReadsLoosely.text_of_ne {s : String}
    (hread : ∀ x, Leading.float? s = some x → x.isFinite = false)
    (h : ∀ negative, s ≠ (Binary64.infinity negative).numberText) : ReadsLoosely s (.text s) :=
  .text hread (h false) (h true)

theorem readsLoosely_decodeLoose (s : String) :
    ∃ result, decodeLoose (.text s) = .ok result ∧ ReadsLoosely s result := by
  rw [decodeLoose_text]
  have named (negative : Bool) (h : s = (Binary64.infinity negative).numberText) :
      Leading.float? s = some (.infinity negative) := by
    rw [h]
    exact float?_numberText_infinity negative
  cases hread : Leading.float? s with
  | none =>
      refine ⟨_, rfl, .text_of_ne (by simp [hread]) ?_⟩
      intro negative h
      rw [named negative h] at hread
      cases hread
  | some x =>
      refine ⟨_, rfl, ?_⟩
      cases x with
      | finite negative ordinal => exact .finite hread rfl
      | nan =>
          -- No text begins with a number that is none.
          have hname : s ≠ "NaN" := by
            intro h
            rw [h] at hread
            exact absurd hread (show Leading.float? "NaN" ≠ some .nan by decide)
          have hnan : (Binary64.nan.isFinite || Binary64.nan.numberText == s) = false := by
            simpa [Binary64.isFinite, Binary64.numberText] using Ne.symm hname
          simp only [hnan]
          refine .text_of_ne (by simp [hread, Binary64.isFinite]) ?_
          intro negative h
          rw [named negative h] at hread
          cases hread
      | infinity negative =>
          by_cases hname : s = (Binary64.infinity negative).numberText
          · have hsame : (Binary64.infinity negative).numberText == s := by simp [hname]
            simp only [hsame, Bool.or_true, if_true]
            exact .infinite (hname.trans (numberText_infinity negative))
          · have hother : ((Binary64.infinity negative).isFinite ||
                (Binary64.infinity negative).numberText == s) = false := by
              simpa [Binary64.isFinite] using Ne.symm hname
            simp only [hother]
            refine .text_of_ne (by simp [hread, Binary64.isFinite]) ?_
            intro other h
            have hread' := named other h
            rw [hread] at hread'
            cases hread'
            exact hname h

/-! ### Both together -/

/-- **What is read back is of the kind that its column promises, and what cannot be read back is
listed with its fault.**  A column of Booleans reads null only from null.  A column without a type
of its own leaves a text as it is or takes it for the number that it begins with. -/
theorem decode_kinds (column : Column) (value : Value) :
    (∀ fault, column.decode value = .error fault ↔ column.DecodingFault value fault) ∧
    ((∀ fault, ¬ column.DecodingFault value fault) → ∃ result, column.decode value = .ok result) ∧
    (∀ result, column.decode value = .ok result → column.category.Holds result ∧
      (column.category = .boolean → (result = .null ↔ value = .null))) ∧
    ∀ s, value = .text s → column.category = .numeric ∨ column.category = .typeless →
      ∃ result, column.decode value = .ok result ∧ ReadsLoosely s result := by
  refine ⟨fun _ => decode_eq_error_iff, ?_, ?_, ?_⟩
  · intro h
    refine not_fails_iff.mp ?_
    intro hfails
    obtain ⟨fault, hfault⟩ := hfails
    exact h fault (decode_eq_error_iff.mp hfault)
  · intro result h
    exact ⟨holds_decode h, fun hcategory => decode_boolean_eq_null_iff hcategory h⟩
  · intro s heq hcategory
    subst heq
    have hloose : column.decode (.text s) = decodeLoose (.text s) := by
      unfold decode
      rcases hcategory with hcategory | hcategory <;> rw [hcategory]
    rw [hloose]
    exact readsLoosely_decodeLoose s

/-- An integer beyond the binary64 numbers, and a text that is almost the name of an infinity. -/
theorem decode_kinds_infinity :
    (Column.ofType "b" "boolean" none).decode (.int (2 ^ 1024)) = .error .beyondBinary64 ∧
      ∃ result, (Column.ofType "n" "numeric" none).decode (.text "-Infinity ") = .ok result ∧
        ReadsLoosely "-Infinity " result := by
  have hbeyond : Binary64.IsBeyond (2 ^ 1024) := by
    rw [Binary64.IsBeyond, Int.natAbs_pow]
    exact Nat.sub_le _ _
  obtain ⟨hfault, -⟩ := decode_kinds (.ofType "b" "boolean" none) (.int (2 ^ 1024))
  obtain ⟨-, -, -, hloose⟩ := decode_kinds (.ofType "n" "numeric" none) (.text "-Infinity ")
  exact ⟨(hfault _).mpr (.number (.inr (by decide)) hbeyond), hloose _ rfl (.inl (by decide))⟩

end Column

end RowShell
