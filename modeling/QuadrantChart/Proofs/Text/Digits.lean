/-
This file proves that the decimal digits of a number read back to it.
-/

import Mathlib.Algebra.Group.Nat.Defs
import Mathlib.Data.List.Induction
import Mathlib.Logic.Function.Basic
import QuadrantChart.Binary64.Reading

namespace QuadrantChart

namespace Text

theorem digitChar_isDigit : ∀ digit < 10, (digitChar digit).isDigit = true := by
  decide

theorem digitChar_toNat : ∀ digit < 10, (digitChar digit).toNat - 48 = digit := by
  decide

theorem ofNat_nonempty (value : Nat) : ofNat value ≠ [] := by
  unfold ofNat
  split <;> simp

theorem ofNat_isDigit (value : Nat) : ∀ char ∈ ofNat value, char.isDigit = true := by
  fun_induction ofNat value with
  | case1 value small =>
    intro char member
    rw [List.mem_singleton.1 member]
    exact digitChar_isDigit value small
  | case2 value large inductionHypothesis =>
    intro char member
    rcases List.mem_append.1 member with leading | last
    · exact inductionHypothesis char leading
    · rw [List.mem_singleton.1 last]
      exact digitChar_isDigit _ (Nat.mod_lt _ (by decide))

/-- A number below a power of ten has as many digits at most. -/
theorem ofNat_length {places value : Nat} (below : value < 10 ^ (places + 1)) :
    (ofNat value).length ≤ places + 1 := by
  induction places generalizing value with
  | zero =>
    unfold ofNat
    rw [if_pos (by simpa using below)]
    exact Nat.le_refl _
  | succ places inductionHypothesis =>
    unfold ofNat
    split_ifs with small
    · simp
    · rw [Nat.pow_succ] at below
      have leading : (ofNat (value / 10)).length ≤ places + 1 := inductionHypothesis (by omega)
      simp only [List.length_append, List.length_cons, List.length_nil]
      omega

/-- A number is below the power of ten of as many zeros as it has digits. -/
theorem lt_ten_pow_length (value : Nat) : value < 10 ^ (ofNat value).length := by
  fun_induction ofNat value with
  | case1 value small => exact small
  | case2 value large inductionHypothesis =>
    rw [List.length_append, List.length_singleton, Nat.pow_succ]
    omega

theorem padded_isDigit (width value : Nat) : ∀ char ∈ padded width value, char.isDigit = true := by
  intro char member
  rcases List.mem_append.1 member with zero | digit
  · rw [List.eq_of_mem_replicate zero]
    decide
  · exact ofNat_isDigit value char digit

theorem padded_nonempty (width value : Nat) : padded width value ≠ [] := by
  simp [padded, ofNat_nonempty]

end Text

namespace Numeral

theorem digitsValue_append (leading trailing : Text) :
    digitsValue (leading ++ trailing) =
      digitsValue leading * 10 ^ trailing.length + digitsValue trailing := by
  induction trailing using List.reverseRecOn with
  | nil => simp [digitsValue]
  | append_singleton trailing digit inductionHypothesis =>
    have step (digits : Text) :
        digitsValue (digits ++ [digit]) = 10 * digitsValue digits + (digit.toNat - 48) := by
      simp [digitsValue]
    rw [← List.append_assoc, step, step, inductionHypothesis, List.length_append,
      List.length_singleton, Nat.pow_succ]
    rw [Nat.mul_add, Nat.add_assoc, ← Nat.mul_assoc _ _ 10, Nat.mul_comm 10 (_ * _)]

theorem digitsValue_ofNat (value : Nat) : digitsValue (Text.ofNat value) = value := by
  fun_induction Text.ofNat value with
  | case1 value small => simp [digitsValue, Text.digitChar_toNat value small]
  | case2 value large inductionHypothesis =>
    have last := Text.digitChar_toNat (value % 10) (Nat.mod_lt _ (by decide))
    rw [digitsValue_append, inductionHypothesis]
    simp only [digitsValue, List.foldl_cons, List.foldl_nil, List.length_singleton, last]
    omega

theorem digitsValue_zeros (count : Nat) : digitsValue (List.replicate count '0') = 0 := by
  induction count with
  | zero => rfl
  | succ count inductionHypothesis =>
    rw [List.replicate_succ', digitsValue_append, inductionHypothesis]
    rfl

theorem digitsValue_padded (width value : Nat) :
    digitsValue (Text.padded width value) = value := by
  rw [Text.padded, digitsValue_append, digitsValue_zeros, digitsValue_ofNat, Nat.zero_mul,
    Nat.zero_add]

end Numeral

/-- Different numbers have different digits. -/
theorem Text.ofNat_injective : Function.Injective Text.ofNat :=
  Function.LeftInverse.injective Numeral.digitsValue_ofNat

end QuadrantChart
