/-
This file computes with finite numbers that are not negative, as exact counts of units.
-/

import QuadrantChart.Proofs.Number.Sum

namespace QuadrantChart

namespace Number

open Binary64 (roundedQuotient unitsPerOne overflowUnits)

/-- A finite number that is not negative, as an exact count of units. An integer can be too large
for a floating point number. -/
def IsAmount : Number → Nat → Prop
  | .integer value, units => value * unitsPerOne = (units : Int)
  | .double value, units => value.IsAmount units

theorem IsAmount.integer {value : Int} {units : Nat} (amount : IsAmount (.integer value) units) :
    ¬value < 0 ∧ value.natAbs * unitsPerOne = units := by
  have positive := Binary64.unitsPerOne_positive
  constructor
  · intro below
    have product : value * unitsPerOne < 0 := Int.mul_neg_of_neg_of_pos below (by omega)
    rw [IsAmount] at amount
    omega
  · have absolute := congrArg Int.natAbs amount
    rwa [Int.natAbs_mul, Int.natAbs_natCast, Int.natAbs_natCast] at absolute

/-- An amount is rounded once. -/
theorem IsAmount.toDouble {number : Number} {units : Nat} {value : Binary64}
    (amount : number.IsAmount units) (converts : number.toDouble = .ok value) :
    value.IsAmount (roundedQuotient units 1) := by
  cases number with
  | double double =>
    cases converts
    rw [Binary64.IsAmount.rounded amount]
    exact amount
  | integer integer =>
    obtain ⟨notNegative, magnitude⟩ := amount.integer
    obtain ⟨rfl, finite⟩ := requireFinite_ok.1 converts
    rw [Binary64.ofQuotient, magnitude] at finite ⊢
    exact Binary64.ofUnits_amount (by simp [notNegative]) (Binary64.ofUnits_isFinite.1 finite)

theorem IsAmount.converts {number : Number} {units : Nat} (amount : number.IsAmount units)
    (below : roundedQuotient units 1 < overflowUnits) :
    ∃ value, number.toDouble = .ok value ∧ value.IsAmount (roundedQuotient units 1) := by
  have converts : ∃ value, number.toDouble = .ok value := by
    cases number with
    | double double => exact ⟨double, rfl⟩
    | integer integer =>
      obtain ⟨-, magnitude⟩ := amount.integer
      refine ⟨_, requireFinite_ok.2 ⟨rfl, ?_⟩⟩
      rw [Binary64.ofQuotient, magnitude]
      exact Binary64.ofUnits_isFinite.2 below
  obtain ⟨value, converts⟩ := converts
  exact ⟨value, converts, amount.toDouble converts⟩

theorem isFinite_ok {number : Number} :
    number.isFinite = .ok true ↔ ∃ value, number.toDouble = .ok value ∧ value.isFinite = true := by
  simp only [isFinite, Result.bind_ok, Result.pure_ok]

/-- A finite number is an amount unless it is below zero. -/
theorem isAmount_of_finite {number : Number} (finite : number.isFinite = .ok true)
    (notNegative : number.lt 0 = false) : ∃ units, number.IsAmount units := by
  cases number with
  | integer integer =>
    have order : ¬integer < 0 := of_decide_eq_false notNegative
    refine ⟨integer.toNat * unitsPerOne, ?_⟩
    rw [IsAmount, Int.natCast_mul, Int.toNat_of_nonneg (by omega)]
  | double double =>
    obtain ⟨value, converts, isFinite⟩ := isFinite_ok.1 finite
    cases converts
    cases double with
    | nan => cases isFinite
    | infinite negative => cases isFinite
    | finite negative units representable =>
      have order : ¬Binary64.signedUnits negative units < 0 * unitsPerOne :=
        of_decide_eq_false notNegative
      rw [Int.zero_mul] at order
      refine ⟨(Binary64.signedUnits negative units).toNat, negative, units, representable, rfl, ?_⟩
      omega

/-- A number is below zero only when it is at most zero. -/
theorem lt_zero_of_le {number : Number} (finite : number.isFinite = .ok true)
    (positive : number.le 0 = false) : number.lt 0 = false := by
  cases number with
  | integer integer =>
    simp only [le, isNan, lt] at positive ⊢
    simp at positive ⊢
    omega
  | double double =>
    obtain ⟨value, converts, isFinite⟩ := isFinite_ok.1 finite
    cases converts
    cases double with
    | nan => cases isFinite
    | infinite negative => cases isFinite
    | finite negative units representable =>
      simp only [le, isNan, lt] at positive ⊢
      simp [integerLt, ltInteger, Binary64.isNan] at positive ⊢
      omega

/-- Half of an amount is rounded once. -/
theorem IsAmount.half {number half : Number} {units : Nat} (amount : number.IsAmount units)
    (halved : number.half = .ok half) :
    ∃ value, half = .double value ∧ value.IsAmount (roundedQuotient units 2) := by
  cases number with
  | integer integer =>
    obtain ⟨notNegative, magnitude⟩ := amount.integer
    obtain ⟨value, finite, rfl⟩ := Result.map_ok.1 halved
    obtain ⟨rfl, isFinite⟩ := requireFinite_ok.1 finite
    refine ⟨_, rfl, ?_⟩
    rw [Binary64.ofQuotient, magnitude] at isFinite ⊢
    exact Binary64.ofUnits_amount (by simp [notNegative]) (Binary64.ofUnits_isFinite.1 isFinite)
  | double double =>
    cases halved
    exact ⟨_, rfl, Binary64.IsAmount.half amount⟩

/-- Twice an amount is rounded once. -/
theorem IsAmount.twice {number twice : Number} {units : Nat} {value : Binary64}
    (amount : number.IsAmount units) (doubled : Number.mul 2 number = .ok twice)
    (converts : twice.toDouble = .ok value) (finite : value.isFinite = true) :
    value.IsAmount (roundedQuotient (2 * units) 1) := by
  cases number with
  | integer integer =>
    cases doubled
    refine IsAmount.toDouble ?_ converts
    rw [IsAmount] at amount ⊢
    rw [Int.mul_assoc, amount]
    rfl
  | double double =>
    have isTwo : Number.toDouble 2 = .ok 2 := by
      obtain ⟨fits, two⟩ := Binary64.two_finite
      refine requireFinite_ok.2 ⟨rfl, ?_⟩
      change (2 : Binary64).isFinite = true
      rw [two]
      rfl
    change (do return .double ((← Number.toDouble 2) * double) : Except Fault Number) = _ at doubled
    rw [isTwo] at doubled
    cases doubled
    cases converts
    exact Binary64.IsAmount.twice amount finite

end Number

end QuadrantChart
