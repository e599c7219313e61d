/-
This file proves that encoded texts are decoded again.
-/

import QuadrantChart.Text.Utf8
import Mathlib.Tactic.SplitIfs

namespace QuadrantChart

namespace Text

variable {first second third fourth : UInt8} {rest : Bytes} {position : Nat}

theorem isContinuation_iff (byte : UInt8) :
    isContinuation byte = true ↔ 0x80 ≤ byte.toNat ∧ byte.toNat < 0xC0 := by
  simp [isContinuation, UInt8.le_iff_toNat_le, UInt8.lt_iff_toNat_lt]

/-- A second byte is a continuation that avoids the overlong forms, the surrogates and the codes
past the last one. -/
theorem isSecond_of (continues : isContinuation second = true)
    (notOverlong : first.toNat = 0xE0 → 0xA0 ≤ second.toNat)
    (notSurrogate : first.toNat = 0xED → second.toNat < 0xA0)
    (notOverlonger : first.toNat = 0xF0 → 0x90 ≤ second.toNat)
    (notPastLast : first.toNat = 0xF4 → second.toNat < 0x90) :
    isSecond first second = true := by
  simp only [isSecond, continues, Bool.true_and, Bool.and_eq_true, Bool.not_eq_true',
    Bool.and_eq_false_imp, beq_iff_eq, decide_eq_false_iff_not, UInt8.le_iff_toNat_le,
    UInt8.lt_iff_toNat_lt, ← UInt8.toNat_inj, UInt8.toNat_ofNat]
  omega

/-- A first byte of several begins no shorter form. -/
theorem leads_long (first : UInt8) (leads : 0xC2 ≤ first.toNat ∧ first.toNat < 0xF5) :
    ¬first < 0x80 ∧ (decide (first < 0xC2) || decide (0xF5 ≤ first)) = false := by
  simp only [Bool.or_eq_false_iff, decide_eq_false_iff_not, UInt8.le_iff_toNat_le,
    UInt8.lt_iff_toNat_lt, UInt8.toNat_ofNat]
  omega

theorem decodeFrom_one (leads : first.toNat < 0x80) :
    decodeFrom position (first :: rest) =
      (decodeFrom (position + 1) rest).map (Char.ofNat first.toNat :: ·) := by
  have one : first < 0x80 := UInt8.lt_iff_toNat_lt.2 leads
  rw [decodeFrom.eq_def]
  simp only [one, if_true]
  cases decodeFrom (position + 1) rest <;> rfl

theorem decodeFrom_two (leads : 0xC2 ≤ first.toNat ∧ first.toNat < 0xE0)
    (isNext : isSecond first second = true) :
    decodeFrom position (first :: second :: rest) =
      (decodeFrom (position + 2) rest).map
        (Char.ofNat (first.toNat % 0x20 * 0x40 + lowBits second) :: ·) := by
  obtain ⟨notOne, begins⟩ := leads_long first (by omega)
  have two : first < 0xE0 := UInt8.lt_iff_toNat_lt.2 leads.2
  rw [decodeFrom.eq_def]
  simp only [notOne, begins, isNext, two, Bool.not_true, Bool.false_eq_true, if_false, if_true]
  cases decodeFrom (position + 2) rest <;> rfl

theorem decodeFrom_three (leads : 0xE0 ≤ first.toNat ∧ first.toNat < 0xF0)
    (isNext : isSecond first second = true) (continues : isContinuation third = true) :
    decodeFrom position (first :: second :: third :: rest) =
      (decodeFrom (position + 3) rest).map
        (Char.ofNat (first.toNat % 0x10 * 0x1000 + lowBits second * 0x40 + lowBits third) ::
          ·) := by
  obtain ⟨notOne, begins⟩ := leads_long first (by omega)
  have notTwo : ¬first < 0xE0 := fun two => Nat.not_le_of_lt (UInt8.lt_iff_toNat_lt.1 two) leads.1
  have three : first < 0xF0 := UInt8.lt_iff_toNat_lt.2 leads.2
  rw [decodeFrom.eq_def]
  simp only [notOne, begins, isNext, notTwo, continues, three, Bool.not_true, Bool.false_eq_true,
    if_false, if_true]
  cases decodeFrom (position + 3) rest <;> rfl

theorem decodeFrom_four (leads : 0xF0 ≤ first.toNat ∧ first.toNat < 0xF5)
    (isNext : isSecond first second = true) (continues : isContinuation third = true)
    (goesOn : isContinuation fourth = true) :
    decodeFrom position (first :: second :: third :: fourth :: rest) =
      (decodeFrom (position + 4) rest).map
        (Char.ofNat (first.toNat % 8 * 0x40000 + lowBits second * 0x1000 + lowBits third * 0x40 +
          lowBits fourth) :: ·) := by
  obtain ⟨notOne, begins⟩ := leads_long first (by omega)
  have notTwo : ¬first < 0xE0 := fun two =>
    absurd (UInt8.lt_iff_toNat_lt.1 two) (Nat.not_lt_of_le (Nat.le_trans (by decide) leads.1))
  have notThree : ¬first < 0xF0 := fun three =>
    Nat.not_le_of_lt (UInt8.lt_iff_toNat_lt.1 three) leads.1
  rw [decodeFrom.eq_def]
  simp only [notOne, begins, isNext, notTwo, continues, notThree, goesOn, Bool.not_true,
    Bool.false_eq_true, if_false]
  cases decodeFrom (position + 4) rest <;> rfl

/-- The code of a character is no surrogate and not past the last code. -/
theorem code_valid (char : Char) :
    char.toNat < 0xD800 ∨ 0xDFFF < char.toNat ∧ char.toNat < 0x110000 :=
  char.valid

theorem toNat_byte {value : Nat} (small : value < 256) : (UInt8.ofNat value).toNat = value :=
  UInt8.toNat_ofNat_of_lt small

/-- Six bits make a continuation, which gives them back. -/
theorem continuation_bits (value : Nat) :
    isContinuation (UInt8.ofNat (0x80 + value % 0x40)) = true ∧
      (UInt8.ofNat (0x80 + value % 0x40)).toNat = 0x80 + value % 0x40 ∧
      lowBits (UInt8.ofNat (0x80 + value % 0x40)) = value % 0x40 := by
  have byte : (UInt8.ofNat (0x80 + value % 0x40)).toNat = 0x80 + value % 0x40 :=
    toNat_byte (by omega)
  rw [isContinuation_iff, lowBits, byte]
  omega

/-- The bytes of a character are decoded as it, whatever follows them. -/
theorem decodeFrom_encodeChar (char : Char) (position : Nat) (rest : Bytes) :
    decodeFrom position (encodeChar char ++ rest) =
      (decodeFrom (position + (encodeChar char).length) rest).map (char :: ·) := by
  have valid := code_valid char
  have same : Char.ofNat char.toNat = char := Char.ofNat_toNat char
  unfold encodeChar
  generalize char.toNat = code at valid same ⊢
  simp only
  obtain ⟨last, lastByte, lastBits⟩ := continuation_bits code
  obtain ⟨middle, middleByte, middleBits⟩ := continuation_bits (code / 0x40)
  obtain ⟨early, earlyByte, earlyBits⟩ := continuation_bits (code / 0x1000)
  split_ifs with one two three
  · have lead : (UInt8.ofNat code).toNat = code := toNat_byte (by omega)
    rw [List.singleton_append, decodeFrom_one (by rwa [lead]), lead, same]
    rfl
  · have lead : (UInt8.ofNat (0xC0 + code / 0x40)).toNat = 0xC0 + code / 0x40 :=
      toNat_byte (by omega)
    have isNext : isSecond (UInt8.ofNat (0xC0 + code / 0x40)) (UInt8.ofNat (0x80 + code % 0x40)) =
        true := by
      apply isSecond_of last <;> omega
    have whole : (0xC0 + code / 0x40) % 0x20 * 0x40 + code % 0x40 = code := by omega
    rw [List.cons_append, List.singleton_append, decodeFrom_two (by omega) isNext, lead, lastBits,
      whole, same]
    rfl
  · have lead : (UInt8.ofNat (0xE0 + code / 0x1000)).toNat = 0xE0 + code / 0x1000 :=
      toNat_byte (by omega)
    have isNext : isSecond (UInt8.ofNat (0xE0 + code / 0x1000))
        (UInt8.ofNat (0x80 + code / 0x40 % 0x40)) = true := by
      apply isSecond_of middle <;> omega
    have whole : (0xE0 + code / 0x1000) % 0x10 * 0x1000 + code / 0x40 % 0x40 * 0x40 + code % 0x40 =
        code := by omega
    rw [List.cons_append, List.cons_append, List.singleton_append,
      decodeFrom_three (by omega) isNext last, lead, middleBits, lastBits, whole, same]
    rfl
  · have lead : (UInt8.ofNat (0xF0 + code / 0x40000)).toNat = 0xF0 + code / 0x40000 :=
      toNat_byte (by omega)
    have isNext : isSecond (UInt8.ofNat (0xF0 + code / 0x40000))
        (UInt8.ofNat (0x80 + code / 0x1000 % 0x40)) = true := by
      apply isSecond_of early <;> omega
    have whole : (0xF0 + code / 0x40000) % 8 * 0x40000 + code / 0x1000 % 0x40 * 0x1000 +
        code / 0x40 % 0x40 * 0x40 + code % 0x40 = code := by omega
    rw [List.cons_append, List.cons_append, List.cons_append, List.singleton_append,
      decodeFrom_four (by omega) isNext middle last, lead, earlyBits, middleBits, lastBits, whole,
      same]
    rfl

theorem decodeFrom_encodeUtf8 (text : Text) (position : Nat) :
    decodeFrom position (encodeUtf8 text) = .ok text := by
  induction text generalizing position with
  | nil => rfl
  | cons char text inductionHypothesis =>
    have bytes : encodeUtf8 (char :: text) = encodeChar char ++ encodeUtf8 text :=
      List.flatMap_cons
    rw [bytes, decodeFrom_encodeChar, inductionHypothesis]
    rfl

/-- Encoded texts are decoded again. -/
theorem decodeUtf8_encodeUtf8 (text : Text) : decodeUtf8 (encodeUtf8 text) = .ok text :=
  decodeFrom_encodeUtf8 text 0

end Text

end QuadrantChart
