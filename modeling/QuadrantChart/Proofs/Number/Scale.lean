/-
This file proves which numbers have a size at a scale, which is their product rounded to an integer,
and bounds the sizes.
-/

import QuadrantChart.Proofs.Number.Shift
import QuadrantChart.Proofs.Text.Digits

namespace QuadrantChart

namespace Number

/-- A number whose product with a scale is finite. -/
def ScalesBy (number scale : Number) : Prop :=
  ∃ product, number.mul scale = .ok product ∧ product.isFinite = .ok true

instance (number scale : Number) : Decidable (number.ScalesBy scale) :=
  decidable_of_iff ((number.mul scale >>= isFinite) = .ok true) Result.bind_ok

theorem scalesBy_double {number : Number} {scale : Binary64} :
    number.ScalesBy (.double scale) ↔
      ∃ value, number.toDouble = .ok value ∧ (value * scale).isFinite = true := by
  constructor
  · rintro ⟨_, product, finite⟩
    obtain ⟨value, converts, rfl⟩ := combine_right_ok.1 product
    exact ⟨value, converts, isFinite_double.1 finite⟩
  · rintro ⟨value, converts, finite⟩
    exact ⟨_, combine_right_ok.2 ⟨value, converts, rfl⟩, isFinite_double.2 finite⟩

/-- Exactly the finite floating point numbers have a nearest integer. -/
theorem round_double {value : Binary64} :
    (∃ nearest, (Number.double value).round = .ok nearest) ↔ value.isFinite = true := by
  cases value <;> simp [round, Binary64.isFinite]

/-- A number times a scale, rounded, and at least one. -/
def sizeAt (number scale : Number) : Except Fault Int := do
  return max 1 (← (← number.mul scale).round)

theorem sizeAt_ok {number : Number} {scale : Binary64} {size : Int} :
    number.sizeAt (.double scale) = .ok size ↔
      ∃ value nearest, number.toDouble = .ok value ∧
        (Number.double (value * scale)).round = .ok nearest ∧ max 1 nearest = size := by
  simp only [sizeAt, Result.bind_ok, Result.pure_ok]
  constructor
  · rintro ⟨_, product, nearest, rounded, rfl⟩
    obtain ⟨value, converts, rfl⟩ := combine_right_ok.1 product
    exact ⟨value, nearest, converts, rounded, rfl⟩
  · rintro ⟨value, nearest, converts, rounded, rfl⟩
    exact ⟨_, combine_right_ok.2 ⟨value, converts, rfl⟩, nearest, rounded, rfl⟩

/-- A number has a size when its product with the scale is finite. -/
theorem sizeAt_iff {number : Number} {scale : Binary64} :
    (∃ size, number.sizeAt (.double scale) = .ok size) ↔ number.ScalesBy (.double scale) := by
  simp only [scalesBy_double, sizeAt_ok, ← round_double]
  constructor
  · rintro ⟨_, value, nearest, converts, rounded, rfl⟩
    exact ⟨value, converts, nearest, rounded⟩
  · rintro ⟨value, converts, nearest, rounded⟩
    exact ⟨_, value, nearest, converts, rounded, rfl⟩

/-- An integer that stays clear of the overflow. -/
def IsModest (value : Int) : Prop :=
  value.natAbs * Binary64.unitsPerOne + Binary64.slackUnits < Binary64.overflowUnits

theorem IsModest.mono {value smaller : Int} (modest : IsModest value)
    (order : smaller.natAbs ≤ value.natAbs) : IsModest smaller := by
  have units := Nat.mul_le_mul_right Binary64.unitsPerOne order
  rw [IsModest] at modest ⊢
  omega

theorem IsModest.convertible {value : Int} (modest : IsModest value) :
    (Number.integer value).Convertible :=
  ⟨_, requireFinite_ok.2 ⟨rfl, Binary64.ofUnits_isFinite.2
    (Binary64.rounded_below_overflow modest)⟩⟩

/-- A finite number is rounded to an integer that stays clear of the overflow. -/
theorem round_modest {value : Binary64} {nearest : Int}
    (rounded : (Number.double value).round = .ok nearest) : IsModest (max 1 nearest) := by
  cases value with
  | nan => cases rounded
  | infinite negative => cases rounded
  | finite negative units representable =>
    cases rounded
    have slight : Binary64.unitsPerOne < Binary64.slackUnits := by decide +kernel
    have room := representable.below_slack
    have upward := Binary64.nearestEven_le units Binary64.unitsPerOne
    have magnitude : (Binary64.nearestInteger negative units).natAbs =
        Binary64.nearestEven units Binary64.unitsPerOne := Binary64.natAbs_signedUnits _ _
    have whole := Nat.div_mul_le_self units Binary64.unitsPerOne
    generalize units / Binary64.unitsPerOne = quotient at upward whole
    have counted : (max 1 (Binary64.nearestInteger negative units)).natAbs ≤ quotient + 1 := by
      omega
    -- Rounding adds one at most, which is slight beside the room that finite numbers keep.
    have below : (max 1 (Binary64.nearestInteger negative units)).natAbs * Binary64.unitsPerOne ≤
        units + Binary64.unitsPerOne :=
      calc
        _ ≤ (quotient + 1) * Binary64.unitsPerOne := Nat.mul_le_mul_right _ counted
        _ = quotient * Binary64.unitsPerOne + Binary64.unitsPerOne := Nat.succ_mul _ _
        _ ≤ units + Binary64.unitsPerOne := Nat.add_le_add_right whole _
    rw [IsModest]
    omega

theorem sizeAt_modest {number : Number} {scale : Binary64} {size : Int}
    (sized : number.sizeAt (.double scale) = .ok size) : IsModest size := by
  obtain ⟨value, nearest, -, rounded, rfl⟩ := sizeAt_ok.1 sized
  exact round_modest rounded

/-- An integer that stays clear of the overflow has few digits. -/
theorem IsModest.length {value : Int} (modest : IsModest value) :
    (Text.ofInt value).length ≤ 310 := by
  have limit : Binary64.overflowUnits ≤ 10 ^ 309 * Binary64.unitsPerOne := by decide +kernel
  have below : value.natAbs < 10 ^ (308 + 1) := by
    refine Nat.lt_of_mul_lt_mul_right (a := Binary64.unitsPerOne) ?_
    rw [IsModest] at modest
    omega
  have digits := Text.ofNat_length below
  unfold Text.ofInt
  split <;> simp <;> omega

end Number

end QuadrantChart
