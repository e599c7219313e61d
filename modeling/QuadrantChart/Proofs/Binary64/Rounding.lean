/-
This file proves which quotients are rounded to a given magnitude.
-/

import Mathlib.Algebra.Group.Nat.Defs
import QuadrantChart.Binary64.Decimal

namespace QuadrantChart

namespace Binary64

/-- Powers are written with their operator in all that follows. -/
theorem pow_eq (base exponent : Nat) : base.pow exponent = base ^ exponent :=
  rfl

/-- The exponent of the unit, kept apart from its value so that no power is expanded. -/
theorem unitsPerOne_eq : ∃ places, places = 1074 ∧ unitsPerOne = 2 ^ places := by
  unfold unitsPerOne
  generalize 1074 = places
  exact ⟨places, rfl, pow_eq 2 places⟩

theorem overflowUnits_eq : ∃ places, places = 2098 ∧ overflowUnits = 2 ^ places := by
  unfold overflowUnits
  generalize 2098 = places
  exact ⟨places, rfl, pow_eq 2 places⟩

theorem unitsPerOne_positive : 0 < unitsPerOne := by
  obtain ⟨places, -, power⟩ := unitsPerOne_eq
  rw [power]
  exact Nat.two_pow_pos places

theorem nearestEven_mul (quotient denominator : Nat) (positive : 0 < denominator) :
    nearestEven (quotient * denominator) denominator = quotient := by
  simp [nearestEven, Nat.mul_div_cancel _ positive, positive]

theorem nearestEven_scale (numerator denominator scale : Nat) (positive : 0 < scale) :
    nearestEven (numerator * scale) (denominator * scale) = nearestEven numerator denominator := by
  have order (left right : Nat) : left * scale < right * scale ↔ left < right :=
    Nat.mul_lt_mul_right positive
  simp only [nearestEven, Nat.mul_div_mul_right _ _ positive, Nat.mul_mod_mul_right,
    ← Nat.mul_assoc, order]

theorem div_le_nearestEven (numerator denominator : Nat) :
    numerator / denominator ≤ nearestEven numerator denominator := by
  unfold nearestEven
  dsimp only
  split
  · exact Nat.le_refl _
  · split <;> omega

/-- A magnitude without bits below its leading 53 bits is kept. -/
theorem roundedQuotient_exact (units denominator : Nat) (positive : 0 < denominator)
    (aligned : 2 ^ (units.log2 - 52) ∣ units) :
    roundedQuotient (units * denominator) denominator = units := by
  obtain ⟨significand, split⟩ := aligned
  have scale : 0 < denominator * 2 ^ (units.log2 - 52) :=
    Nat.mul_pos positive (Nat.two_pow_pos _)
  have regrouped : units * denominator =
      significand * (denominator * 2 ^ (units.log2 - 52)) := by
    calc
      units * denominator = 2 ^ (units.log2 - 52) * significand * denominator :=
        congrArg (· * denominator) split
      _ = significand * (denominator * 2 ^ (units.log2 - 52)) := by
        rw [Nat.mul_comm _ significand, Nat.mul_assoc, Nat.mul_comm _ denominator]
  unfold roundedQuotient
  rw [Nat.mul_div_cancel _ positive]
  simp only [pow_eq]
  rw [regrouped, nearestEven_mul _ _ scale, Nat.mul_comm]
  exact split.symm

theorem roundedQuotient_scale (numerator denominator scale : Nat) (positive : 0 < scale) :
    roundedQuotient (numerator * scale) (denominator * scale) =
      roundedQuotient numerator denominator := by
  unfold roundedQuotient
  rw [Nat.mul_div_mul_right _ _ positive]
  dsimp only
  rw [Nat.mul_right_comm denominator, nearestEven_scale _ _ _ positive]

/-- Equal quotients are rounded alike. -/
theorem roundedQuotient_congr (numerator denominator otherNumerator otherDenominator : Nat)
    (positive : 0 < denominator) (otherPositive : 0 < otherDenominator)
    (equal : numerator * otherDenominator = otherNumerator * denominator) :
    roundedQuotient numerator denominator = roundedQuotient otherNumerator otherDenominator := by
  calc
    roundedQuotient numerator denominator =
        roundedQuotient (numerator * otherDenominator) (denominator * otherDenominator) :=
      (roundedQuotient_scale _ _ _ otherPositive).symm
    _ = roundedQuotient (otherNumerator * denominator) (otherDenominator * denominator) := by
      rw [equal, Nat.mul_comm denominator]
    _ = roundedQuotient otherNumerator otherDenominator := roundedQuotient_scale _ _ _ positive

/-- Rounding does not go below a power of two. -/
theorem two_pow_le_roundedQuotient (numerator denominator exponent : Nat)
    (bound : 2 ^ exponent ≤ numerator / denominator) :
    2 ^ exponent ≤ roundedQuotient numerator denominator := by
  have nonzero : numerator / denominator ≠ 0 := by
    have := Nat.two_pow_pos exponent
    omega
  have leading : exponent ≤ (numerator / denominator).log2 := (Nat.le_log2 nonzero).2 bound
  have shift : (numerator / denominator).log2 - 52 ≤ (numerator / denominator).log2 :=
    Nat.sub_le _ _
  generalize scaled : (numerator / denominator).log2 - 52 = power at shift
  have kept : 2 ^ ((numerator / denominator).log2 - power) ≤
      nearestEven numerator (denominator * 2 ^ power) := by
    refine Nat.le_trans ?_ (div_le_nearestEven _ _)
    rw [← Nat.div_div_eq_div_mul, Nat.le_div_iff_mul_le (Nat.two_pow_pos _), ← Nat.pow_add,
      Nat.sub_add_cancel shift]
    exact Nat.log2_self_le nonzero
  calc
    2 ^ exponent ≤ 2 ^ (numerator / denominator).log2 :=
      Nat.pow_le_pow_right (by decide) leading
    _ = 2 ^ ((numerator / denominator).log2 - power) * 2 ^ power := by
      rw [← Nat.pow_add, Nat.sub_add_cancel shift]
    _ ≤ nearestEven numerator (denominator * 2 ^ power) * 2 ^ power :=
      Nat.mul_le_mul_right _ kept
    _ = roundedQuotient numerator denominator := by
      simp only [roundedQuotient, scaled, pow_eq]

/-- What is less than half a unit vanishes. -/
theorem roundedQuotient_small (numerator denominator : Nat)
    (small : 2 * numerator < denominator) : roundedQuotient numerator denominator = 0 := by
  have quotient : numerator / denominator = 0 := Nat.div_eq_of_lt (by omega)
  have remainder : numerator % denominator = numerator := Nat.mod_eq_of_lt (by omega)
  simp [roundedQuotient, nearestEven, quotient, remainder, small]

theorem ofUnits_eq (negative : Bool) (numerator denominator units : Nat)
    (representable : Representable units)
    (rounded : roundedQuotient numerator denominator = units) :
    ofUnits negative numerator denominator = .finite negative units representable := by
  subst rounded
  simp [ofUnits, representable.1]

end Binary64

end QuadrantChart
