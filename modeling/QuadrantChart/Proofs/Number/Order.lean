/-
This file orders amounts, and the numbers nearest to counts of units, which can be infinite.
-/

import QuadrantChart.Proofs.Binary64.Shift
import QuadrantChart.Proofs.Number.Amount

namespace QuadrantChart

namespace Binary64

variable {first second value : Binary64} {units otherUnits : Nat}

theorem IsAmount.lt_iff (firstAmount : first.IsAmount units)
    (secondAmount : second.IsAmount otherUnits) : first.lt second = true ↔ units < otherUnits := by
  obtain ⟨_, _, _, rfl, firstSigned⟩ := firstAmount
  obtain ⟨_, _, _, rfl, secondSigned⟩ := secondAmount
  simp only [lt, firstSigned, secondSigned, decide_eq_true_eq, Int.ofNat_lt]

theorem IsAmount.isNan (amount : value.IsAmount units) : value.isNan = false := by
  obtain ⟨_, _, _, rfl, -⟩ := amount
  rfl

theorem IsAmount.le_iff (firstAmount : first.IsAmount units)
    (secondAmount : second.IsAmount otherUnits) : first.le second = true ↔ units ≤ otherUnits := by
  have order := secondAmount.lt_iff firstAmount
  rw [le, firstAmount.isNan, secondAmount.isNan]
  cases before : second.lt first <;> simp_all

/-- The number nearest to a count of units, which can be infinite. A zero has either sign. -/
def IsRounding (value : Binary64) (units : Nat) : Prop :=
  ∃ negative, value = ofUnits negative units 1 ∧ (negative = true → units = 0)

theorem IsAmount.isRounding (amount : value.IsAmount units) : value.IsRounding units := by
  obtain ⟨negative, representable, rfl, sign⟩ := amount.shape
  exact ⟨negative, (ofUnits_exact negative representable).symm, sign⟩

theorem IsRounding.cases (rounding : value.IsRounding units) :
    (value = .infinite false ∧ overflowUnits ≤ roundedQuotient units 1) ∨
      value.IsAmount (roundedQuotient units 1) := by
  obtain ⟨negative, rfl, sign⟩ := rounding
  rcases Nat.lt_or_ge (roundedQuotient units 1) overflowUnits with below | above
  · exact .inr (ofUnits_amount sign below)
  · refine .inl ⟨?_, above⟩
    cases negative with
    | false => exact dif_neg (Nat.not_lt.2 above)
    | true =>
      have positive : 0 < overflowUnits := by decide +kernel
      rw [sign rfl, roundedQuotient_small 0 1 (by decide)] at above
      omega

/-- Rounding keeps the order, also to infinity. -/
theorem IsRounding.le (firstRounding : first.IsRounding units)
    (secondRounding : second.IsRounding otherUnits) (order : units ≤ otherUnits) :
    first.le second = true := by
  have rounded := roundedQuotient_mono 1 order
  rcases secondRounding.cases with ⟨rfl, -⟩ | secondAmount
  · rcases firstRounding.cases with ⟨rfl, -⟩ | firstAmount
    · rfl
    · obtain ⟨_, _, rfl, -⟩ := firstAmount.shape
      rfl
  · rcases firstRounding.cases with ⟨-, above⟩ | firstAmount
    · have below := secondAmount.representable.1
      omega
    · exact (firstAmount.le_iff secondAmount).2 rounded

theorem IsRounding.same (firstRounding : first.IsRounding units)
    (secondRounding : second.IsRounding otherUnits) (equal : units = otherUnits) :
    Same first second := by
  rw [same_iff, eq, firstRounding.le secondRounding (Nat.le_of_eq equal),
    secondRounding.le firstRounding (Nat.le_of_eq equal.symm)]
  exact .inr rfl

/-- A large magnitude has an exact half. -/
theorem roundedQuotient_halved (representable : Representable units) (large : 2 ^ 53 ≤ units) :
    2 * roundedQuotient units 2 = units := by
  have nonzero : units ≠ 0 := by omega
  have leading : 53 ≤ units.log2 := (Nat.le_log2 nonzero).2 large
  obtain ⟨half, rfl⟩ : 2 ∣ units :=
    Nat.dvd_trans (Nat.pow_dvd_pow 2 (by omega : 1 ≤ units.log2 - 52)) representable.2
  have aligned : 2 ^ (half.log2 - 52) ∣ half := by
    have scale : (2 * half).log2 = half.log2 + 1 := Nat.log2_two_mul (by omega)
    have power : 2 ^ ((2 * half).log2 - 52) = 2 * 2 ^ (half.log2 - 52) := by
      rw [← Nat.pow_succ']
      congr 1
      omega
    have divides := representable.2
    rw [pow_eq, power] at divides
    exact Nat.dvd_of_mul_dvd_mul_left (by decide) divides
  have exact := roundedQuotient_exact half 2 (by decide) aligned
  rw [Nat.mul_comm] at exact
  rw [exact]

/-- Half of one is exact. -/
theorem half_one : 2 * roundedQuotient unitsPerOne 2 = unitsPerOne := by
  obtain ⟨representable, -⟩ := one_finite
  exact roundedQuotient_halved representable (by decide +kernel)

theorem half_amount : (1 / 2 : Binary64).IsAmount (roundedQuotient unitsPerOne 2) := by
  obtain ⟨representable, one⟩ := one_finite
  exact IsAmount.half ⟨false, unitsPerOne, representable, one, rfl⟩

/-- A power of two of at least `2 ^ (-1021)`, in units. -/
theorem powerOfTwo_amount : (powerOfTwo (-1021)).IsAmount (2 ^ 53) := by
  have representable : Representable (2 ^ 53) := ⟨by decide +kernel, by decide +kernel⟩
  exact ⟨false, 2 ^ 53, representable, ofUnits_exact false representable, rfl⟩

theorem scaledUnits_zero (units : Nat) : scaledUnits 0 units = 0 := by
  rw [scaledUnits, Nat.zero_mul]
  exact roundedQuotient_small 0 _ unitsPerOne_positive

theorem scaledUnits_half (units : Nat) :
    scaledUnits (roundedQuotient unitsPerOne 2) units = roundedQuotient units 2 := by
  have half := half_one
  have positive := unitsPerOne_positive
  generalize roundedQuotient unitsPerOne 2 = part at half
  rw [scaledUnits, ← half, Nat.mul_comm part, roundedQuotient_scale units 2 part (by omega)]

end Binary64

namespace Number

variable {first second number : Number} {units otherUnits : Nat}

theorem IsAmount.isNan (amount : number.IsAmount units) : number.isNan = false := by
  cases number with
  | integer value => rfl
  | double value => exact Binary64.IsAmount.isNan amount

/-- Amounts are compared exactly, of whichever kinds the numbers are. -/
theorem IsAmount.lt_iff (firstAmount : first.IsAmount units)
    (secondAmount : second.IsAmount otherUnits) : first.lt second = true ↔ units < otherUnits := by
  have positive := Binary64.unitsPerOne_positive
  cases first with
  | integer left =>
    rw [IsAmount] at firstAmount
    cases second with
    | integer right =>
      rw [IsAmount] at secondAmount
      have order : left < right ↔ left * Binary64.unitsPerOne < right * Binary64.unitsPerOne :=
        (Int.mul_lt_mul_right (by omega)).symm
      rw [lt, decide_eq_true_eq, order, firstAmount, secondAmount, Int.ofNat_lt]
    | double right =>
      obtain ⟨_, _, _, rfl, signed⟩ := secondAmount
      rw [lt, integerLt, decide_eq_true_eq, firstAmount, signed, Int.ofNat_lt]
  | double left =>
    cases second with
    | integer right =>
      rw [IsAmount] at secondAmount
      obtain ⟨_, _, _, rfl, signed⟩ := firstAmount
      rw [lt, ltInteger, decide_eq_true_eq, secondAmount, signed, Int.ofNat_lt]
    | double right => exact Binary64.IsAmount.lt_iff firstAmount secondAmount

theorem IsAmount.le_iff (firstAmount : first.IsAmount units)
    (secondAmount : second.IsAmount otherUnits) : first.le second = true ↔ units ≤ otherUnits := by
  have order := secondAmount.lt_iff firstAmount
  rw [le, firstAmount.isNan, secondAmount.isNan]
  cases before : second.lt first <;> simp_all

/-- Only amounts of equally many units are equal. -/
theorem IsAmount.same_iff (firstAmount : first.IsAmount units)
    (secondAmount : second.IsAmount otherUnits) : first.Same second ↔ units = otherUnits := by
  rw [Same, firstAmount.le_iff secondAmount, secondAmount.le_iff firstAmount, firstAmount.isNan]
  simp only [Bool.false_eq_true, false_and, false_or]
  omega

/-- A number between zero and one. -/
structure InUnit (number : Number) : Prop where
  lower : (0 : Number).le number = true
  upper : number.le 1 = true

theorem zero_amount : (0 : Number).IsAmount 0 :=
  Int.zero_mul _

theorem one_amount : (1 : Number).IsAmount Binary64.unitsPerOne :=
  Int.one_mul _

theorem half_amount :
    (Number.double (1 / 2)).IsAmount (Binary64.roundedQuotient Binary64.unitsPerOne 2) :=
  Binary64.half_amount

theorem InUnit.isAmount (inside : number.InUnit) : ∃ units, number.IsAmount units := by
  obtain ⟨lower, upper⟩ := inside
  have notNegative : number.lt 0 = false := by
    rw [le, Bool.and_eq_true, Bool.not_eq_true'] at lower
    exact lower.2
  cases number with
  | integer value =>
    have order : ¬value < 0 := of_decide_eq_false notNegative
    refine ⟨value.toNat * Binary64.unitsPerOne, ?_⟩
    rw [IsAmount, Int.natCast_mul, Int.toNat_of_nonneg (by omega)]
  | double value =>
    cases value with
    | nan => exact absurd lower (by decide)
    | infinite negative =>
      cases negative with
      | true => exact absurd lower (by decide)
      | false => exact absurd upper (by decide)
    | finite negative units representable => exact isAmount_of_finite rfl notNegative

/-- A number between zero and one is an amount of at most one, and converts exactly. -/
theorem InUnit.amount (inside : number.InUnit) :
    ∃ units ≤ Binary64.unitsPerOne, number.IsAmount units ∧
      ∃ value, number.toDouble = .ok value ∧ value.IsAmount units := by
  obtain ⟨units, amount⟩ := inside.isAmount
  have bounded := (amount.le_iff one_amount).1 inside.upper
  refine ⟨units, bounded, amount, ?_⟩
  have representable : Binary64.Representable units := by
    cases number with
    | double value => exact Binary64.IsAmount.representable amount
    | integer value =>
      obtain ⟨one, -⟩ := Binary64.one_finite
      obtain ⟨zero, -⟩ := Binary64.zero_finite
      obtain ⟨-, magnitude⟩ := amount.integer
      have positive := Binary64.unitsPerOne_positive
      have few : value.natAbs ≤ 1 := by
        refine Nat.le_of_mul_le_mul_right ?_ positive
        rwa [magnitude, Nat.one_mul]
      rcases Nat.le_one_iff_eq_zero_or_eq_one.1 few with none | single
      · rw [none, Nat.zero_mul] at magnitude
        exact magnitude ▸ zero
      · rw [single, Nat.one_mul] at magnitude
        exact magnitude ▸ one
  have rounded := Binary64.roundedQuotient_one representable
  have converted := amount.converts (by rw [rounded]; exact representable.1)
  rwa [rounded] at converted

end Number

end QuadrantChart
