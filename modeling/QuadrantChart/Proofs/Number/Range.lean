/-
This file proves that no operation fails on floating point numbers and small integers.
-/

import QuadrantChart.Proofs.Binary64.Monotone
import QuadrantChart.Proofs.Number.Sum

namespace QuadrantChart

namespace Number

/-- Integers up to here have finite roundings, as have the results of a few operations on small
ones. -/
def finiteLimit : Nat :=
  2 ^ 200

/-- A number that is a floating point number, or an integer up to a limit. -/
def Within (limit : Nat) (number : Number) : Prop :=
  ∀ value, number = .integer value → value.natAbs ≤ limit

theorem within_double (limit : Nat) (value : Binary64) : Within limit (.double value) :=
  fun _ integer => nomatch integer

theorem within_integer {limit : Nat} {value : Int} (small : value.natAbs ≤ limit) :
    Within limit (.integer value) := by
  rintro _ ⟨⟩
  exact small

theorem Within.mono {limit greater : Nat} {number : Number} (within : number.Within limit)
    (order : limit ≤ greater) : number.Within greater :=
  fun value integer => Nat.le_trans (within value integer) order

/-- A small count of ones or of their parts is finite. -/
theorem ofQuotient_finite (negative : Bool) {magnitude denominator : Nat}
    (small : magnitude ≤ finiteLimit) (positive : 0 < denominator) :
    (Binary64.ofQuotient negative magnitude denominator).isFinite = true := by
  obtain ⟨places, exponent, units⟩ := Binary64.unitsPerOne_eq
  obtain ⟨overflow, exponentOverflow, overflowUnits⟩ := Binary64.overflowUnits_eq
  rw [Binary64.ofQuotient, Binary64.ofUnits_isFinite]
  have aligned : 2 ^ ((2 ^ (200 + places)).log2 - 52) ∣ 2 ^ (200 + places) := by
    have power := Binary64.scaled_dvd 1 (200 + places) (by decide)
    rwa [Nat.one_mul] at power
  have below : magnitude * Binary64.unitsPerOne ≤ 2 ^ (200 + places) * denominator :=
    calc
      magnitude * Binary64.unitsPerOne ≤ 2 ^ (200 + places) := by
        rw [units, Nat.pow_add]
        exact Nat.mul_le_mul_right _ small
      _ ≤ 2 ^ (200 + places) * denominator := Nat.le_mul_of_pos_right _ positive
  calc
    Binary64.roundedQuotient (magnitude * Binary64.unitsPerOne) denominator
        ≤ 2 ^ (200 + places) := Binary64.roundedQuotient_le positive aligned below
    _ < 2 ^ overflow := Nat.pow_lt_pow_right (by decide) (by omega)
    _ = Binary64.overflowUnits := overflowUnits.symm

theorem Within.convertible {number : Number} (within : number.Within finiteLimit) :
    number.Convertible := by
  cases number with
  | double value => exact ⟨value, rfl⟩
  | integer value =>
    have finite := ofQuotient_finite (value < 0) (within value rfl) (by decide : 0 < 1)
    exact ⟨_, requireFinite_ok.2 ⟨rfl, finite⟩⟩

/-- A small integer has a half that is a floating point number, as has every other number. -/
theorem Within.half {number : Number} (within : number.Within finiteLimit) :
    ∃ half, number.half = .ok half ∧ half.Within 0 := by
  cases number with
  | double value => exact ⟨_, rfl, within_double 0 _⟩
  | integer value =>
    have finite := ofQuotient_finite (value < 0) (within value rfl) (by decide : 0 < 2)
    refine ⟨_, Result.map_ok.2 ⟨_, requireFinite_ok.2 ⟨rfl, finite⟩, rfl⟩, within_double 0 _⟩

variable {left right : Number} {leftLimit rightLimit : Nat}

/-- An operation does not fail, and its result is an integer only where both numbers are. -/
theorem Within.combine {exact : Int → Int → Int} {rounded : Binary64 → Binary64 → Binary64}
    {limit : Nat} (leftWithin : left.Within leftLimit) (rightWithin : right.Within rightLimit)
    (small : leftLimit ≤ finiteLimit ∧ rightLimit ≤ finiteLimit)
    (bounded : ∀ first second : Int, first.natAbs ≤ leftLimit → second.natAbs ≤ rightLimit →
      (exact first second).natAbs ≤ limit) :
    ∃ result, Number.combine exact rounded left right = .ok result ∧ result.Within limit := by
  obtain ⟨first, leftDouble⟩ := (leftWithin.mono small.1).convertible
  obtain ⟨second, rightDouble⟩ := (rightWithin.mono small.2).convertible
  have mixed : Number.combine exact rounded left right =
      (do return .double (rounded (← left.toDouble) (← right.toDouble))) →
      ∃ result, Number.combine exact rounded left right = .ok result ∧ result.Within limit := by
    intro equal
    rw [equal, leftDouble, rightDouble]
    exact ⟨_, rfl, within_double _ _⟩
  cases left with
  | double value => exact mixed (by cases right <;> rfl)
  | integer value =>
    cases right with
    | double other => exact mixed rfl
    | integer other =>
      exact ⟨_, rfl, within_integer (bounded _ _ (leftWithin _ rfl) (rightWithin _ rfl))⟩

theorem Within.add (leftWithin : left.Within leftLimit) (rightWithin : right.Within rightLimit)
    (small : leftLimit ≤ finiteLimit ∧ rightLimit ≤ finiteLimit) :
    ∃ sum, left.add right = .ok sum ∧ sum.Within (leftLimit + rightLimit) :=
  leftWithin.combine rightWithin small fun first second _ _ => by omega

theorem Within.sub (leftWithin : left.Within leftLimit) (rightWithin : right.Within rightLimit)
    (small : leftLimit ≤ finiteLimit ∧ rightLimit ≤ finiteLimit) :
    ∃ difference, left.sub right = .ok difference ∧ difference.Within (leftLimit + rightLimit) :=
  leftWithin.combine rightWithin small fun first second _ _ => by omega

theorem Within.mul (leftWithin : left.Within leftLimit) (rightWithin : right.Within rightLimit)
    (small : leftLimit ≤ finiteLimit ∧ rightLimit ≤ finiteLimit) :
    ∃ product, left.mul right = .ok product ∧ product.Within (leftLimit * rightLimit) :=
  leftWithin.combine rightWithin small fun first second firstSmall secondSmall => by
    rw [Int.natAbs_mul]
    exact Nat.mul_le_mul firstSmall secondSmall

end Number

end QuadrantChart
