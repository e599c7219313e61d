/-
This file proves that rounding keeps the order of quotients, and so their bounds that need no
rounding.
-/

import Mathlib.Tactic.ByContra
import Mathlib.Tactic.SplitIfs
import QuadrantChart.Proofs.Binary64.Rounding

namespace QuadrantChart

namespace Binary64

theorem nearestEven_mono {first second : Nat} (denominator : Nat) (order : first ≤ second) :
    nearestEven first denominator ≤ nearestEven second denominator := by
  have quotients : first / denominator ≤ second / denominator := Nat.div_le_div_right order
  rcases Nat.lt_or_eq_of_le quotients with below | same
  · calc
      nearestEven first denominator ≤ first / denominator + 1 := nearestEven_le _ _
      _ ≤ second / denominator := below
      _ ≤ nearestEven second denominator := div_le_nearestEven _ _
  · have remainders : first % denominator ≤ second % denominator := by
      have left := Nat.div_add_mod first denominator
      have right := Nat.div_add_mod second denominator
      rw [same] at left
      omega
    simp only [nearestEven, same]
    split_ifs <;> omega

theorem log2_mono {first second : Nat} (order : first ≤ second) : first.log2 ≤ second.log2 := by
  rcases Nat.eq_zero_or_pos first with zero | positive
  · simp [zero]
  · rw [Nat.le_log2 (by omega)]
    exact Nat.le_trans (Nat.log2_self_le (by omega)) order

/-- Rounding does not go above the power of two that bounds the significand. -/
theorem roundedQuotient_le_shifted (numerator denominator : Nat) :
    roundedQuotient numerator denominator ≤
      2 ^ (53 + ((numerator / denominator).log2 - 52)) := by
  have significand : nearestEven numerator
      (denominator * Nat.pow 2 ((numerator / denominator).log2 - 52)) ≤ 2 ^ 53 := by
    refine Nat.le_trans (nearestEven_le _ _) ?_
    rw [← Nat.div_div_eq_div_mul]
    exact div_scale_lt _ _ (Nat.le_refl _)
  rw [roundedQuotient, Nat.pow_add]
  exact Nat.mul_le_mul_right _ significand

theorem roundedQuotient_mono {first second : Nat} (denominator : Nat) (order : first ≤ second) :
    roundedQuotient first denominator ≤ roundedQuotient second denominator := by
  have quotients : first / denominator ≤ second / denominator := Nat.div_le_div_right order
  have leading := log2_mono quotients
  by_cases same : (first / denominator).log2 - 52 = (second / denominator).log2 - 52
  · -- Both are rounded to multiples of one power of two.
    simp only [roundedQuotient, same]
    exact Nat.mul_le_mul_right _ (nearestEven_mono _ order)
  · -- A power of two separates them.
    have nonzero : second / denominator ≠ 0 := by
      intro zero
      rw [zero, Nat.log2_zero] at leading same
      omega
    calc
      roundedQuotient first denominator ≤ 2 ^ (53 + ((first / denominator).log2 - 52)) :=
        roundedQuotient_le_shifted _ _
      _ ≤ 2 ^ (second / denominator).log2 := Nat.pow_le_pow_right (by decide) (by omega)
      _ ≤ roundedQuotient second denominator :=
        two_pow_le_roundedQuotient _ _ _ (Nat.log2_self_le nonzero)

/-- A bound that needs no rounding still holds after rounding. -/
theorem roundedQuotient_le {numerator denominator bound : Nat} (positive : 0 < denominator)
    (aligned : 2 ^ (bound.log2 - 52) ∣ bound) (below : numerator ≤ bound * denominator) :
    roundedQuotient numerator denominator ≤ bound :=
  calc
    roundedQuotient numerator denominator ≤ roundedQuotient (bound * denominator) denominator :=
      roundedQuotient_mono _ below
    _ = bound := roundedQuotient_exact bound denominator positive aligned

theorem roundedQuotient_one {units : Nat} (representable : Representable units) :
    roundedQuotient units 1 = units := by
  have exact := roundedQuotient_exact units 1 (by decide) representable.2
  rwa [Nat.mul_one] at exact

/-- Only nothing is rounded to nothing. -/
theorem roundedQuotient_one_zero {units : Nat} (zero : roundedQuotient units 1 = 0) :
    units = 0 := by
  by_contra nonzero
  have one : 2 ^ 0 ≤ units / 1 := by
    rw [Nat.div_one]
    exact Nat.pos_of_ne_zero nonzero
  have kept := two_pow_le_roundedQuotient units 1 0 one
  omega

/-- What is rounded to a finite magnitude is below the overflow. -/
theorem lt_overflow {numerator denominator : Nat} (positive : 0 < denominator)
    (finite : roundedQuotient numerator denominator < overflowUnits) :
    numerator < overflowUnits * denominator := by
  obtain ⟨places, -, power⟩ := overflowUnits_eq
  rw [power] at finite ⊢
  rw [← Nat.div_lt_iff_lt_mul positive]
  refine Nat.lt_of_not_le fun above => ?_
  exact Nat.not_le_of_lt finite (two_pow_le_roundedQuotient _ _ places above)

/-- Where twice an amount and another one stay below the overflow, so do the amount and half of the
other one, however they are rounded. -/
theorem half_below_overflow {amount other : Nat} (below : other + 2 * amount < overflowUnits) :
    roundedQuotient (roundedQuotient amount 1 + roundedQuotient other 2) 1 < overflowUnits := by
  obtain ⟨places, exponent, power⟩ := overflowUnits_eq
  obtain ⟨lower, rfl⟩ : ∃ lower, places = lower + 2 := ⟨2096, exponent⟩
  have four : overflowUnits = 4 * 2 ^ lower := by
    rw [power, Nat.pow_add, Nat.mul_comm]
  have aligned (significand : Nat) (small : significand ≤ Nat.pow 2 53) :
      2 ^ ((significand * 2 ^ lower).log2 - 52) ∣ significand * 2 ^ lower :=
    scaled_dvd significand lower small
  have single := aligned 1 (by decide)
  have double := aligned 2 (by decide)
  have triple := aligned 3 (by decide)
  have positive := Nat.two_pow_pos lower
  rw [four] at below ⊢
  -- The larger one of the two is at most half of the overflow, and the other one at most a quarter.
  generalize 2 ^ lower = quarter at *
  have sum : roundedQuotient amount 1 + roundedQuotient other 2 ≤ 3 * quarter := by
    rcases Nat.le_total amount quarter with small | large
    · have first := roundedQuotient_le (by decide : 0 < 1) single (by omega : amount ≤ _)
      have second := roundedQuotient_le (by decide : 0 < 2) double (by omega : other ≤ _)
      omega
    · have first := roundedQuotient_le (by decide : 0 < 1) double (by omega : amount ≤ _)
      have second := roundedQuotient_le (by decide : 0 < 2) single (by omega : other ≤ _)
      omega
  have rounded := roundedQuotient_le (by decide : 0 < 1) triple (by omega :
    roundedQuotient amount 1 + roundedQuotient other 2 ≤ 3 * quarter * 1)
  omega

end Binary64

end QuadrantChart
