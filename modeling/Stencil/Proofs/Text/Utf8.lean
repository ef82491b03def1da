import Mathlib.Tactic.Common
import Stencil.Text.Utf8

/-!
Bytes that encode a text decode to that text. A character is read back from its bytes whatever comes
after them, by the number of bytes that it takes.
-/

namespace Stencil.Utf8

theorem toNat_ofNat {n : Nat} (small : n < 256) : (UInt8.ofNat n).toNat = n := by
  rw [UInt8.toNat_ofNat', Nat.mod_eq_of_lt small]

/-! ## Bytes of one character -/

section Bytes

variable {first second third fourth : Nat} {low high : UInt8} {rest : Bytes}

theorem shape?_ofNat (small : first < 256) :
    shape? (UInt8.ofNat first) =
      if first < 0xC2 then none
      else if first < 0xE0 then some (1, 0x80, 0xBF)
      else if first = 0xE0 then some (2, 0xA0, 0xBF)
      else if first = 0xED then some (2, 0x80, 0x9F)
      else if first < 0xF0 then some (2, 0x80, 0xBF)
      else if first = 0xF0 then some (3, 0x90, 0xBF)
      else if first < 0xF4 then some (3, 0x80, 0xBF)
      else if first = 0xF4 then some (3, 0x80, 0x8F)
      else none := by
  simp only [shape?, UInt8.lt_iff_toNat_lt, toNat_ofNat small, beq_iff_eq, ← UInt8.toNat_inj]
  rfl

theorem not_lt_ofNat (large : 0x80 ≤ first) (small : first < 256) :
    ¬ UInt8.ofNat first < 0x80 := by
  rw [UInt8.lt_iff_toNat_lt, toNat_ofNat small, Nat.not_lt]
  exact large

theorem within_ofNat (small : second < 256) (bounds : low.toNat ≤ second ∧ second ≤ high.toNat) :
    (decide (low ≤ UInt8.ofNat second) && decide (UInt8.ofNat second ≤ high)) = true := by
  rw [Bool.and_eq_true, decide_eq_true_eq, decide_eq_true_eq, UInt8.le_iff_toNat_le,
    UInt8.le_iff_toNat_le, toNat_ofNat small]
  exact bounds

/-- A byte that continues a character. -/
def IsTail (byte : Nat) : Prop := 0x80 ≤ byte ∧ byte ≤ 0xBF

theorem IsTail.small (isTail : IsTail second) : second < 256 :=
  Nat.lt_of_le_of_lt isTail.2 (by decide)

theorem isContinuation_ofNat (isTail : IsTail second) :
    isContinuation (UInt8.ofNat second) = true :=
  within_ofNat isTail.small isTail

/-- The least lead byte and that of the surrogates narrow the second byte of three. -/
theorem exists_shape_three (isFirst : 0xE0 ≤ first ∧ first < 0xF0) (isSecond : IsTail second)
    (least : first = 0xE0 → 0xA0 ≤ second) (noSurrogate : first = 0xED → second ≤ 0x9F) :
    ∃ low high : UInt8, shape? (UInt8.ofNat first) = some (2, low, high) ∧
      low.toNat ≤ second ∧ second ≤ high.toNat := by
  rw [shape?_ofNat (by omega), if_neg (by omega), if_neg (by omega)]
  split
  · rename_i isLeast
    exact ⟨_, _, rfl, least isLeast, isSecond.2⟩
  · split
    · rename_i isSurrogate
      exact ⟨_, _, rfl, isSecond.1, noSurrogate isSurrogate⟩
    · rw [if_pos isFirst.2]
      exact ⟨_, _, rfl, isSecond⟩

/-- The least and the greatest lead byte narrow the second byte of four. -/
theorem exists_shape_four (isFirst : 0xF0 ≤ first ∧ first ≤ 0xF4) (isSecond : IsTail second)
    (least : first = 0xF0 → 0x90 ≤ second) (greatest : first = 0xF4 → second ≤ 0x8F) :
    ∃ low high : UInt8, shape? (UInt8.ofNat first) = some (3, low, high) ∧
      low.toNat ≤ second ∧ second ≤ high.toNat := by
  rw [shape?_ofNat (by omega), if_neg (by omega), if_neg (by omega), if_neg (by omega),
    if_neg (by omega), if_neg (by omega)]
  split
  · rename_i isLeast
    exact ⟨_, _, rfl, least isLeast, isSecond.2⟩
  · split
    · exact ⟨_, _, rfl, isSecond⟩
    · have isGreatest : first = 0xF4 := by omega
      rw [if_pos isGreatest]
      exact ⟨_, _, rfl, isSecond.1, greatest isGreatest⟩

theorem readChar_one (small : first < 0x80) :
    readChar (UInt8.ofNat first) rest = .ok (Char.ofNat first, 0) := by
  have isSmall : UInt8.ofNat first < 0x80 := by
    rw [UInt8.lt_iff_toNat_lt, toNat_ofNat (by omega)]
    exact small
  rw [readChar, if_pos isSmall, toNat_ofNat (by omega)]

theorem readChar_two (isFirst : 0xC2 ≤ first ∧ first < 0xE0) (isSecond : IsTail second) :
    readChar (UInt8.ofNat first) (UInt8.ofNat second :: rest) =
      .ok (Char.ofNat (first % 32 * 64 + second % 64), 1) := by
  have small : first < 256 := by omega
  have shape : shape? (UInt8.ofNat first) = some (1, 0x80, 0xBF) := by
    rw [shape?_ofNat small, if_neg (by omega), if_pos isFirst.2]
  have within := isContinuation_ofNat isSecond
  rw [isContinuation] at within
  rw [readChar, if_neg (not_lt_ofNat (by omega) small), shape]
  simp only [within, if_true, toNat_ofNat small, toNat_ofNat isSecond.small]

theorem readChar_three (isFirst : 0xE0 ≤ first ∧ first < 0xF0) (isSecond : IsTail second)
    (least : first = 0xE0 → 0xA0 ≤ second) (noSurrogate : first = 0xED → second ≤ 0x9F)
    (isThird : IsTail third) :
    readChar (UInt8.ofNat first) (UInt8.ofNat second :: UInt8.ofNat third :: rest) =
      .ok (Char.ofNat ((first % 16 * 64 + second % 64) * 64 + third % 64), 2) := by
  have small : first < 256 := by omega
  rcases exists_shape_three isFirst isSecond least noSurrogate with ⟨low, high, shape, bounds⟩
  rw [readChar, if_neg (not_lt_ofNat (by omega) small), shape]
  simp only [within_ofNat isSecond.small bounds, isContinuation_ofNat isThird, if_true,
    Bool.not_true, Bool.false_eq_true, if_false, toNat_ofNat small, toNat_ofNat isSecond.small,
    toNat_ofNat isThird.small]

theorem readChar_four (isFirst : 0xF0 ≤ first ∧ first ≤ 0xF4) (isSecond : IsTail second)
    (least : first = 0xF0 → 0x90 ≤ second) (greatest : first = 0xF4 → second ≤ 0x8F)
    (isThird : IsTail third) (isFourth : IsTail fourth) :
    readChar (UInt8.ofNat first)
        (UInt8.ofNat second :: UInt8.ofNat third :: UInt8.ofNat fourth :: rest) =
      .ok (Char.ofNat
        (((first % 8 * 64 + second % 64) * 64 + third % 64) * 64 + fourth % 64), 3) := by
  have small : first < 256 := by omega
  rcases exists_shape_four isFirst isSecond least greatest with ⟨low, high, shape, bounds⟩
  rw [readChar, if_neg (not_lt_ofNat (by omega) small), shape]
  simp only [within_ofNat isSecond.small bounds, isContinuation_ofNat isThird,
    isContinuation_ofNat isFourth, if_true, Bool.not_true, Bool.false_eq_true, if_false,
    toNat_ofNat small, toNat_ofNat isSecond.small, toNat_ofNat isThird.small,
    toNat_ofNat isFourth.small]

end Bytes

/-! ## Characters -/

/-- The number of a character is that of no surrogate. -/
theorem toNat_bounds (c : Char) : c.toNat < 0xD800 ∨ 0xDFFF < c.toNat ∧ c.toNat < 0x110000 :=
  c.valid

theorem isTail_mod (number : Nat) : IsTail (number % 64 + 128) := by
  constructor <;> omega

/-- A character is read back from its bytes. -/
theorem readChar_encoded (c : Char) (rest : Bytes) :
    ∃ first later, String.utf8EncodeChar c = first :: later ∧
      readChar first (later ++ rest) = .ok (c, later.length) := by
  have scalar := toNat_bounds c
  have isNumber : c.val.toNat = c.toNat := rfl
  have ofNumber {number count : Nat} (same : number = c.toNat) :
      (Except.ok (Char.ofNat number, count) : Except (Reason × Nat) (Char × Nat)) =
        .ok (c, count) := by
    rw [same, Char.ofNat_toNat]
  rw [String.utf8EncodeChar]
  simp only [isNumber]
  split
  · exact ⟨_, [], rfl, (readChar_one (by omega)).trans (ofNumber rfl)⟩
  split
  · exact ⟨_, [_], rfl, (readChar_two (by omega) (isTail_mod _)).trans (ofNumber (by omega))⟩
  split
  · have read := @readChar_three (c.toNat / 4096 % 16 + 224) _ _ rest (by omega)
      (isTail_mod (c.toNat / 64)) (by omega) (by omega) (isTail_mod c.toNat)
    exact ⟨_, [_, _], rfl, read.trans (ofNumber (by omega))⟩
  · have read := @readChar_four (c.toNat / 262144 % 8 + 240) _ _ _ rest (by omega)
      (isTail_mod (c.toNat / 4096)) (by omega) (by omega) (isTail_mod (c.toNat / 64))
      (isTail_mod c.toNat)
    exact ⟨_, [_, _, _], rfl, read.trans (ofNumber (by omega))⟩

/-! ## Texts -/

theorem decodeFrom_skip (start : Nat) (passed later : Bytes) :
    decodeFrom start passed.length (passed ++ later) =
      decodeFrom (start + passed.length) 0 later := by
  induction passed generalizing start with
  | nil => rfl
  | cons byte passed induction =>
      rw [List.cons_append, List.length_cons, decodeFrom, induction, Nat.add_assoc, Nat.add_comm 1]

theorem decodeFrom_encoded (start : Nat) (text : List Char) :
    decodeFrom start 0 (text.flatMap String.utf8EncodeChar) = .ok text := by
  induction text generalizing start with
  | nil => rfl
  | cons c text induction =>
      rcases readChar_encoded c (text.flatMap String.utf8EncodeChar) with
        ⟨first, later, bytes, read⟩
      rw [List.flatMap_cons, bytes, List.cons_append, decodeFrom]
      simp only [read, decodeFrom_skip, induction, Except.map]

theorem decode_encode (text : String) : decode (encode text) = .ok text := by
  rw [decode, encode, decodeFrom_encoded, Except.map, String.ofList_toList]

end Stencil.Utf8
