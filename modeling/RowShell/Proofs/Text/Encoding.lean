/-
Encoded texts are decoded.

The decoders take any bytes, and the bytes that an encoding gives for a character they take for
that character, whatever follows.  So a text that has bytes in an encoding is what is decoded from
them, character by character.  Whether it has them hangs on its characters alone.
-/
import RowShell.Text.Encoding
import Mathlib.Tactic.SplitIfs

namespace RowShell.Encoding

/-! ### Bytes -/

theorem toNat_ofNat {n : Nat} (h : n < 0x100) : (UInt8.ofNat n).toNat = n :=
  UInt8.toNat_ofNat_of_lt' h

/-- The scalar values: the numbers up to the end of the last plane without the surrogates. -/
theorem scalar_valid (c : Char) : c.toNat < 0xd800 ∨ 0xdfff < c.toNat ∧ c.toNat < 0x110000 :=
  c.valid

/-! ### UTF-8

A character of several bytes is begun by the first and continued by the others.
-/

theorem begin?_ascii {n : Nat} (h : n < 0x80) : begin? (.ofNat n) = .inl (Char.ofNat n) := by
  unfold begin?
  rw [toNat_ofNat (by omega)]
  exact if_pos h

theorem begin?_two {n : Nat} (hleast : 2 ≤ n) (h : n < 0x20) :
    begin? (.ofNat (0xc0 + n)) = .inr ⟨1, 0x80, 0xbf, n⟩ := by
  unfold begin?
  rw [toNat_ofNat (by omega)]
  dsimp only
  rw [if_neg (by omega), if_neg (by omega), if_pos (by omega), Nat.add_sub_cancel_left]

theorem begin?_three {n : Nat} (h : n < 0x10) :
    begin? (.ofNat (0xe0 + n)) =
      .inr ⟨2, if n = 0 then 0xa0 else 0x80, if n = 0xd then 0x9f else 0xbf, n⟩ := by
  unfold begin?
  rw [toNat_ofNat (by omega)]
  dsimp only
  have hfirst : (0xe0 + n = 0xe0) = (n = 0) := propext (by omega)
  have hsurrogates : (0xe0 + n = 0xed) = (n = 0xd) := propext (by omega)
  rw [if_neg (by omega), if_neg (by omega), if_neg (by omega), if_pos (by omega),
    Nat.add_sub_cancel_left]
  simp only [hfirst, hsurrogates]

theorem begin?_four {n : Nat} (h : n < 5) :
    begin? (.ofNat (0xf0 + n)) =
      .inr ⟨3, if n = 0 then 0x90 else 0x80, if n = 4 then 0x8f else 0xbf, n⟩ := by
  unfold begin?
  rw [toNat_ofNat (by omega)]
  dsimp only
  have hfirst : (0xf0 + n = 0xf0) = (n = 0) := propext (by omega)
  have hlast : (0xf0 + n = 0xf4) = (n = 4) := propext (by omega)
  rw [if_neg (by omega), if_neg (by omega), if_neg (by omega), if_neg (by omega),
    if_pos (by omega), Nat.add_sub_cancel_left]
  simp only [hfirst, hlast]

theorem utf8From_begin {byte : UInt8} {pending : Pending} (h : begin? byte = .inr pending)
    (rest : List UInt8) : utf8From none (byte :: rest) = utf8From (some pending) rest := by
  rw [utf8From, h]

/-- A byte in the range that is asked for continues a character. -/
theorem utf8From_continue {missing bits n : Nat} {least greatest : UInt8} (hn : n < 0x40)
    (hleast : least.toNat ≤ 0x80 + n) (hgreatest : 0x80 + n ≤ greatest.toNat)
    (rest : List UInt8) :
    utf8From (some ⟨missing, least, greatest, bits⟩) (.ofNat (0x80 + n) :: rest) =
      if missing ≤ 1 then Char.ofNat (bits * 0x40 + n) :: utf8From none rest
      else utf8From (some ⟨missing - 1, 0x80, 0xbf, bits * 0x40 + n⟩) rest := by
  have hbyte := toNat_ofNat (show 0x80 + n < 0x100 by omega)
  have hrange : (decide (least ≤ UInt8.ofNat (0x80 + n)) &&
      decide (UInt8.ofNat (0x80 + n) ≤ greatest)) = true := by
    simp only [UInt8.le_iff_toNat_le, hbyte, hleast, hgreatest, decide_true, Bool.and_self]
  rw [utf8From, if_pos hrange]
  dsimp only
  rw [hbyte, Nat.add_sub_cancel_left]

/-- After the second byte of a character any byte that continues will do. -/
theorem utf8From_more {missing bits n : Nat} (hn : n < 0x40) (rest : List UInt8) :
    utf8From (some ⟨missing, 0x80, 0xbf, bits⟩) (.ofNat (0x80 + n) :: rest) =
      if missing ≤ 1 then Char.ofNat (bits * 0x40 + n) :: utf8From none rest
      else utf8From (some ⟨missing - 1, 0x80, 0xbf, bits * 0x40 + n⟩) rest := by
  have hgreatest : 0x80 + n ≤ (0xbf : UInt8).toNat := by
    change 0x80 + n ≤ 0xbf
    omega
  exact utf8From_continue hn (show (0x80 : UInt8).toNat ≤ 0x80 + n from Nat.le_add_right _ n)
    hgreatest rest

/-- **The bytes of a character are decoded as the character**, whatever follows them. -/
theorem utf8From_utf8Bytes (c : Char) (rest : List UInt8) :
    utf8From none (utf8Bytes c ++ rest) = c :: utf8From none rest := by
  have hvalid := scalar_valid c
  have hchar := Char.ofNat_toNat c
  unfold utf8Bytes
  generalize c.toNat = n at hvalid hchar
  dsimp only
  split_ifs with hone htwo hthree
  · rw [List.singleton_append, utf8From, begin?_ascii hone, hchar]
  · rw [List.cons_append, List.singleton_append,
      utf8From_begin (begin?_two (n := n / 0x40) (by omega) (by omega)),
      utf8From_more (by omega), if_pos (by decide),
      show n / 0x40 * 0x40 + n % 0x40 = n by omega, hchar]
  · have hleast : (if n / 0x1000 = 0 then 0xa0 else 0x80 : UInt8).toNat ≤
        0x80 + n / 0x40 % 0x40 := by
      split
      · change 0xa0 ≤ _
        omega
      · exact Nat.le_add_right 0x80 _
    have hgreatest : 0x80 + n / 0x40 % 0x40 ≤
        (if n / 0x1000 = 0xd then 0x9f else 0xbf : UInt8).toNat := by
      split
      · change _ ≤ 0x9f
        omega
      · change _ ≤ 0xbf
        omega
    rw [List.cons_append, List.cons_append, List.singleton_append,
      utf8From_begin (begin?_three (n := n / 0x1000) (by omega)),
      utf8From_continue (by omega) hleast hgreatest, if_neg (by decide),
      utf8From_more (by omega), if_pos (by decide),
      show (n / 0x1000 * 0x40 + n / 0x40 % 0x40) * 0x40 + n % 0x40 = n by omega, hchar]
  · have hleast : (if n / 0x40000 = 0 then 0x90 else 0x80 : UInt8).toNat ≤
        0x80 + n / 0x1000 % 0x40 := by
      split
      · change 0x90 ≤ _
        omega
      · exact Nat.le_add_right 0x80 _
    have hgreatest : 0x80 + n / 0x1000 % 0x40 ≤
        (if n / 0x40000 = 4 then 0x8f else 0xbf : UInt8).toNat := by
      split
      · change _ ≤ 0x8f
        omega
      · change _ ≤ 0xbf
        omega
    rw [List.cons_append, List.cons_append, List.cons_append, List.singleton_append,
      utf8From_begin (begin?_four (n := n / 0x40000) (by omega)),
      utf8From_continue (by omega) hleast hgreatest, if_neg (by decide),
      utf8From_more (by omega), if_neg (by decide),
      utf8From_more (by omega), if_pos (by decide),
      show ((n / 0x40000 * 0x40 + n / 0x1000 % 0x40) * 0x40 + n / 0x40 % 0x40) * 0x40 + n % 0x40 = n
        by omega, hchar]

/-! ### UTF-16

A character is one unit or a pair of units, and the units of a pair lie in the ranges that no
character has.
-/

theorem unitOf_ofNat {unit : Nat} (h : unit < 0x10000) :
    unitOf (.ofNat (unit % 0x100)) (.ofNat (unit / 0x100)) = unit := by
  unfold unitOf
  rw [toNat_ofNat (by omega), toNat_ofNat (by omega)]
  omega

theorem utf16From_utf16Bytes (c : Char) (rest : List UInt8) :
    utf16From (utf16Bytes c ++ rest) = c :: utf16From rest := by
  have hvalid := scalar_valid c
  have hchar := Char.ofNat_toNat c
  unfold utf16Bytes unitBytes
  generalize c.toNat = n at hvalid hchar
  dsimp only
  split_ifs with hfirst
  · have hleading : isLeading n = false := by
      simp only [isLeading, Bool.and_eq_false_iff, decide_eq_false_iff_not]
      omega
    have htrailing : isTrailing n = false := by
      simp only [isTrailing, Bool.and_eq_false_iff, decide_eq_false_iff_not]
      omega
    rw [List.cons_append, List.singleton_append, utf16From.eq_def]
    dsimp only
    rw [unitOf_ofNat hfirst, hleading, htrailing, if_neg (by decide), if_neg (by decide), hchar]
  · have hleading : isLeading (0xd800 + (n - 0x10000) / 0x400) = true := by
      simp only [isLeading, Bool.and_eq_true, decide_eq_true_eq]
      omega
    have htrailing : isTrailing (0xdc00 + (n - 0x10000) % 0x400) = true := by
      simp only [isTrailing, Bool.and_eq_true, decide_eq_true_eq]
      omega
    have hpair : ofPair (0xd800 + (n - 0x10000) / 0x400) (0xdc00 + (n - 0x10000) % 0x400) = c := by
      rw [ofPair, Nat.add_sub_cancel_left, Nat.add_sub_cancel_left,
        show 0x10000 + (n - 0x10000) / 0x400 * 0x400 + (n - 0x10000) % 0x400 = n by omega, hchar]
    simp only [List.cons_append, List.nil_append]
    rw [utf16From, unitOf_ofNat (by omega), unitOf_ofNat (by omega), hleading, htrailing,
      if_pos rfl, if_pos rfl, hpair]

/-! ### Texts -/

/-- The characters that an encoding has. -/
def Has : Encoding → Char → Prop
  | .ascii, c => c.toNat < 0x80
  | .latin1, c => c.toNat < 0x100
  | .utf8, _ | .utf16le, _ => True

instance (encoding : Encoding) (c : Char) : Decidable (encoding.Has c) :=
  match encoding with
  | .ascii => inferInstanceAs (Decidable (c.toNat < 0x80))
  | .latin1 => inferInstanceAs (Decidable (c.toNat < 0x100))
  | .utf8 | .utf16le => isTrue trivial

theorem exists_bytes? (encoding : Encoding) (c : Char) :
    (∃ bytes, encoding.bytes? c = some bytes) ↔ encoding.Has c := by
  cases encoding with
  | utf8 => exact iff_of_true ⟨_, rfl⟩ trivial
  | ascii => simp [bytes?, Has]
  | latin1 => simp [bytes?, Has]
  | utf16le => exact iff_of_true ⟨_, rfl⟩ trivial

theorem decodeChars_append_of_bytes? {encoding : Encoding} {c : Char} {bytes : List UInt8}
    (h : encoding.bytes? c = some bytes) (rest : List UInt8) :
    encoding.decodeChars (bytes ++ rest) = c :: encoding.decodeChars rest := by
  have hsingle : ∀ bound ≤ 0x100, c.toNat < bound → Char.ofNat (UInt8.ofNat c.toNat).toNat = c := by
    intro bound hbound hc
    rw [toNat_ofNat (by omega), Char.ofNat_toNat]
  cases encoding with
  | utf8 =>
      cases h
      exact utf8From_utf8Bytes c rest
  | ascii =>
      rw [bytes?, Option.ite_none_right_eq_some] at h
      obtain ⟨hc, h⟩ := h
      cases h
      have hbyte : UInt8.ofNat c.toNat < 0x80 := by
        rw [UInt8.lt_iff_toNat_lt, toNat_ofNat (by omega)]
        exact hc
      show (if UInt8.ofNat c.toNat < 0x80 then _ else _) :: _ = _
      rw [if_pos hbyte, hsingle 0x80 (by decide) hc]
      rfl
  | latin1 =>
      rw [bytes?, Option.ite_none_right_eq_some] at h
      obtain ⟨hc, h⟩ := h
      cases h
      show Char.ofNat (UInt8.ofNat c.toNat).toNat :: _ = _
      rw [hsingle 0x100 (by decide) hc]
      rfl
  | utf16le =>
      cases h
      exact utf16From_utf16Bytes c rest

theorem decodeChars_nil (encoding : Encoding) : encoding.decodeChars [] = [] := by
  cases encoding <;> rfl

theorem exists_encodeChars? (encoding : Encoding) (cs : List Char) :
    (∃ bytes, encoding.encodeChars? cs = some bytes) ↔ ∀ c ∈ cs, encoding.Has c := by
  induction cs with
  | nil => exact iff_of_true ⟨_, rfl⟩ nofun
  | cons c rest ih =>
      rw [List.forall_mem_cons, ← exists_bytes?, ← ih, encodeChars?]
      cases encoding.bytes? c with
      | none => simp
      | some bytes => cases encoding.encodeChars? rest <;> simp

theorem decodeChars_of_encodeChars? {encoding : Encoding} {cs : List Char} {bytes : List UInt8}
    (h : encoding.encodeChars? cs = some bytes) : encoding.decodeChars bytes = cs := by
  induction cs generalizing bytes with
  | nil =>
      cases h
      exact decodeChars_nil encoding
  | cons c rest ih =>
      rw [encodeChars?, Option.bind_eq_bind, Option.bind_eq_some_iff] at h
      obtain ⟨first, hfirst, h⟩ := h
      obtain ⟨others, hothers, h⟩ := Option.bind_eq_some_iff.mp h
      cases h
      rw [decodeChars_append_of_bytes? hfirst, ih hothers]

/-- **A text can be encoded exactly if the encoding has its characters.** -/
theorem exists_encode? {encoding : Encoding} {s : String} :
    (∃ bytes, encoding.encode? s = some bytes) ↔ ∀ c ∈ s.toList, encoding.Has c :=
  exists_encodeChars? encoding s.toList

/-- **An encoded text is decoded.** -/
theorem decode_of_encode? {encoding : Encoding} {s : String} {bytes : List UInt8}
    (h : encoding.encode? s = some bytes) : encoding.decode bytes = s := by
  rw [decode, decodeChars_of_encodeChars? h, String.ofList_toList]

/-- A text is decoded from its bytes only if it is the one that has them. -/
theorem decode?_of_encode? {encoding : Encoding} {s : String} {bytes : List UInt8}
    (h : encoding.encode? s = some bytes) : encoding.decode? bytes = some s := by
  rw [decode?, decode_of_encode? h]
  exact if_pos h

end RowShell.Encoding
