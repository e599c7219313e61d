/-
This file bounds numbers of either kind that go from zero on, their products with a scale and their
differences.
-/

import QuadrantChart.Proofs.Binary64.Extent
import QuadrantChart.Proofs.Number.Whole

namespace QuadrantChart

open Binary64 (roundedQuotient roundedQuotient_mono unitsPerOne scaledUnits)

namespace Number

variable {left right number scale result : Number} {value : Binary64}
  {units scaleUnits bound exponent : Nat}

/-- Integers are combined exactly, and all other numbers as floating point numbers. -/
theorem combine_cases {exact : Int → Int → Int} {rounded : Binary64 → Binary64 → Binary64}
    (combined : combine exact rounded left right = .ok result) :
    (∃ first second, left = .integer first ∧ right = .integer second ∧
      result = .integer (exact first second)) ∨
    ∃ first second, left.toDouble = .ok first ∧ right.toDouble = .ok second ∧
      result = .double (rounded first second) := by
  cases left with
  | double first =>
    obtain ⟨second, converts, rfl⟩ := combine_left_ok.1 combined
    exact .inr ⟨first, second, rfl, converts, rfl⟩
  | integer first =>
    cases right with
    | double second =>
      obtain ⟨value, converts, rfl⟩ := combine_right_ok.1 combined
      exact .inr ⟨value, second, converts, rfl, rfl⟩
    | integer second =>
      cases combined
      exact .inl ⟨first, second, rfl, rfl, rfl⟩

/-- A number from zero to a bound, which is in units. -/
def UpTo (bound : Nat) : Number → Prop
  | .integer value => ∃ units ≤ bound, IsAmount (.integer value) units
  | .double value => ∃ units ≤ bound, value.IsExtent units

theorem UpTo.toDouble (upTo : number.UpTo bound) (rounded : roundedQuotient bound 1 = bound)
    (converts : number.toDouble = .ok value) : ∃ units ≤ bound, value.IsExtent units := by
  cases number with
  | double double =>
    cases converts
    exact upTo
  | integer integer =>
    obtain ⟨units, bounded, amount⟩ := upTo
    refine ⟨_, ?_, (amount.toDouble converts).isExtent⟩
    rw [← rounded]
    exact roundedQuotient_mono 1 bounded

/-- A difference is no greater than both of its numbers. -/
theorem UpTo.sub_absoluteUnits (leftUpTo : left.UpTo bound) (rightUpTo : right.UpTo bound)
    (rounded : roundedQuotient bound 1 = bound) (subtracted : left.sub right = .ok result)
    (converts : result.toDouble = .ok value) : value.absoluteUnits ≤ bound := by
  rcases combine_cases subtracted with ⟨first, second, rfl, rfl, rfl⟩ |
    ⟨first, second, leftDouble, rightDouble, rfl⟩
  · obtain ⟨units, bounded, amount⟩ := leftUpTo
    obtain ⟨otherUnits, otherBounded, otherAmount⟩ := rightUpTo
    obtain ⟨rfl, -⟩ := requireFinite_ok.1 converts
    rw [IsAmount] at amount otherAmount
    have difference : (first - second).natAbs * unitsPerOne ≤ bound := by
      have scaled : (first - second) * unitsPerOne = (units : Int) - otherUnits := by
        rw [Int.sub_mul, amount, otherAmount]
      have absolute := congrArg Int.natAbs scaled
      rw [Int.natAbs_mul, Int.natAbs_natCast] at absolute
      omega
    rw [← rounded]
    exact Nat.le_trans (Binary64.ofUnits_absoluteUnits ..) (roundedQuotient_mono 1 difference)
  · cases converts
    obtain ⟨units, bounded, extent⟩ := leftUpTo.toDouble rounded leftDouble
    obtain ⟨otherUnits, otherBounded, otherExtent⟩ := rightUpTo.toDouble rounded rightDouble
    exact extent.sub_absoluteUnits otherExtent bounded otherBounded rounded

/-- An amount of at most `2 ^ 53` goes, at a scale, up to as much in units of the scale. -/
theorem IsAmount.mul_upTo (amount : number.IsAmount units) (scaleAmount : scale.IsAmount scaleUnits)
    (small : units ≤ 2 ^ 53 * unitsPerOne) (scaleSmall : scaleUnits ≤ 2 ^ exponent)
    (multiplied : number.mul scale = .ok result) : result.UpTo (2 ^ (53 + exponent)) := by
  have positive := Binary64.unitsPerOne_positive
  rcases combine_cases multiplied with ⟨first, second, rfl, rfl, rfl⟩ |
    ⟨first, second, leftDouble, rightDouble, rfl⟩
  · obtain ⟨notNegative, magnitude⟩ := amount.integer
    have few : first.natAbs ≤ 2 ^ 53 := Nat.le_of_mul_le_mul_right (magnitude ▸ small) positive
    refine ⟨first.natAbs * scaleUnits, ?_, ?_⟩
    · rw [Nat.pow_add]
      exact Nat.mul_le_mul few scaleSmall
    · rw [IsAmount] at scaleAmount ⊢
      rw [Int.mul_assoc, scaleAmount, Int.natCast_mul, Int.natAbs_of_nonneg (by omega)]
  · obtain ⟨product, bounded, extent⟩ :=
      (amount.toDouble leftDouble).mul_isExtent (scaleAmount.toDouble rightDouble)
    have leftBound := roundedQuotient_mono 1 small
    rw [Binary64.roundedQuotient_one (Binary64.representable_ones (Nat.le_refl _))] at leftBound
    have rightBound := roundedQuotient_mono 1 scaleSmall
    rw [← Nat.mul_one (2 ^ exponent), Binary64.roundedQuotient_two_pow _ Nat.one_pos] at rightBound
    refine ⟨product, ?_, extent⟩
    calc
      product ≤ scaledUnits (roundedQuotient units 1) (roundedQuotient scaleUnits 1) := bounded
      _ ≤ roundedQuotient (2 ^ 53 * unitsPerOne * 2 ^ exponent) unitsPerOne :=
        roundedQuotient_mono _ (Nat.mul_le_mul leftBound rightBound)
      _ = 2 ^ (53 + exponent) := by
        rw [Nat.mul_right_comm, ← Nat.pow_add, Binary64.roundedQuotient_two_pow _ positive]

/-- Two amounts of at most `2 ^ 52` add up to at most `2 ^ 53`. -/
theorem IsAmount.add_small {otherUnits : Nat} (amount : left.IsAmount units)
    (otherAmount : right.IsAmount otherUnits) (small : units ≤ 2 ^ 52 * unitsPerOne)
    (otherSmall : otherUnits ≤ 2 ^ 52 * unitsPerOne) (added : left.add right = .ok result) :
    ∃ sum ≤ 2 ^ 53 * unitsPerOne, result.IsAmount sum := by
  rcases combine_cases added with ⟨first, second, rfl, rfl, rfl⟩ |
    ⟨first, second, leftDouble, rightDouble, rfl⟩
  · refine ⟨units + otherUnits, by omega, ?_⟩
    rw [IsAmount] at amount otherAmount ⊢
    rw [Int.add_mul, amount, otherAmount, Int.natCast_add]
  · have kept : Binary64.Representable (2 ^ 52 * unitsPerOne) :=
      Binary64.representable_ones (by decide)
    have whole : Binary64.Representable (2 ^ 53 * unitsPerOne) :=
      Binary64.representable_ones (Nat.le_refl _)
    have leftBound := roundedQuotient_mono 1 small
    have rightBound := roundedQuotient_mono 1 otherSmall
    rw [Binary64.roundedQuotient_one kept] at leftBound rightBound
    have bounded : roundedQuotient (roundedQuotient units 1 + roundedQuotient otherUnits 1) 1 ≤
        2 ^ 53 * unitsPerOne := by
      rw [← Binary64.roundedQuotient_one whole]
      exact roundedQuotient_mono 1 (by omega)
    exact ⟨_, bounded, (amount.toDouble leftDouble).add_amount (otherAmount.toDouble rightDouble)
      (Nat.lt_of_le_of_lt bounded whole.1)⟩

/-- A number less itself is nothing, unless there is no difference. -/
theorem sub_self_level (subtracted : number.sub number = .ok result)
    (converts : result.toDouble = .ok value) : value = .nan ∨ value.IsAmount 0 := by
  cases number with
  | double double =>
    cases subtracted
    cases converts
    exact Binary64.sub_self_level double
  | integer integer =>
    cases subtracted
    have amount : IsAmount (.integer (integer - integer)) 0 := by
      rw [IsAmount, Int.sub_self, Int.zero_mul]
      rfl
    have rounded := amount.toDouble converts
    rw [Binary64.roundedQuotient_small 0 1 Nat.one_pos] at rounded
    exact .inr rounded

end Number

end QuadrantChart
