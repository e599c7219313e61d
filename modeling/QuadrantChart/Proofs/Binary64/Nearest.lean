/-
This file proves that quotients close to a magnitude are rounded to it, and that rounding keeps the
order of quotients of any denominators.
-/

import QuadrantChart.Proofs.Binary64.Monotone

namespace QuadrantChart

namespace Binary64

theorem nearestEven_cases (numerator denominator : Nat) :
    (nearestEven numerator denominator = numerator / denominator ∧
        2 * (numerator % denominator) ≤ denominator) ∨
      (nearestEven numerator denominator = numerator / denominator + 1 ∧
        denominator ≤ 2 * (numerator % denominator)) := by
  unfold nearestEven
  simp only
  split_ifs <;> omega

/-- Rounding goes no further than half a denominator. -/
theorem nearestEven_close (numerator : Nat) {denominator : Nat} (positive : 0 < denominator) :
    2 * (nearestEven numerator denominator * denominator) ≤ 2 * numerator + denominator ∧
      2 * numerator ≤ 2 * (nearestEven numerator denominator * denominator) + denominator := by
  have parts : numerator / denominator * denominator + numerator % denominator = numerator :=
    Nat.div_add_mod' numerator denominator
  have remainder := Nat.mod_lt numerator positive
  rcases nearestEven_cases numerator denominator with ⟨down, _⟩ | ⟨up, _⟩
  · rw [down]
    omega
  · rw [up, Nat.add_one_mul (numerator / denominator)]
    omega

/-- What is less than half a denominator away from a multiple is rounded to it. -/
theorem nearestEven_eq {quotient numerator denominator : Nat}
    (above : 2 * (quotient * denominator) < 2 * numerator + denominator)
    (below : 2 * numerator < 2 * (quotient * denominator) + denominator) :
    nearestEven numerator denominator = quotient := by
  obtain ⟨upper, lower⟩ := nearestEven_close numerator (by omega : 0 < denominator)
  -- Two multiples less than a denominator apart are the same.
  have apart {first second : Nat} (less : first < second) :
      first * denominator + denominator ≤ second * denominator := by
    rw [← Nat.succ_mul]
    exact Nat.mul_le_mul_right denominator less
  rcases Nat.lt_trichotomy (nearestEven numerator denominator) quotient with less | same | more
  · have := apart less
    omega
  · exact same
  · have := apart more
    omega

/-- A quotient is rounded to a magnitude on its own grid that is less than half a step away. -/
theorem roundedQuotient_near {units numerator denominator shift : Nat}
    (scale : (numerator / denominator).log2 - 52 = shift) (aligned : 2 ^ shift ∣ units)
    (above : 2 * (units * denominator) < 2 * numerator + denominator * 2 ^ shift)
    (below : 2 * numerator < 2 * (units * denominator) + denominator * 2 ^ shift) :
    roundedQuotient numerator denominator = units := by
  obtain ⟨significand, rfl⟩ := aligned
  have regrouped : 2 ^ shift * significand * denominator =
      significand * (denominator * 2 ^ shift) := by
    rw [Nat.mul_comm (2 ^ shift), Nat.mul_assoc, Nat.mul_comm (2 ^ shift)]
  rw [regrouped] at above below
  unfold roundedQuotient
  simp only [pow_eq, scale]
  rw [nearestEven_eq above below, Nat.mul_comm]

/-- Rounding keeps the order of quotients. -/
theorem roundedQuotient_order {numerator denominator otherNumerator otherDenominator : Nat}
    (positive : 0 < denominator) (otherPositive : 0 < otherDenominator)
    (order : numerator * otherDenominator ≤ otherNumerator * denominator) :
    roundedQuotient numerator denominator ≤
      roundedQuotient otherNumerator otherDenominator := by
  calc
    roundedQuotient numerator denominator =
        roundedQuotient (numerator * otherDenominator) (denominator * otherDenominator) :=
      (roundedQuotient_scale _ _ _ otherPositive).symm
    _ ≤ roundedQuotient (otherNumerator * denominator) (denominator * otherDenominator) :=
      roundedQuotient_mono _ order
    _ = roundedQuotient otherNumerator otherDenominator := by
      rw [Nat.mul_comm denominator, roundedQuotient_scale _ _ _ positive]

/-- Sixteen decimal places are finer than the 53 bits of a significand. -/
theorem grid_lt_step {grid denominator bound shift : Nat} (positive : 0 < denominator)
    (fine : 10 ^ 16 * grid ≤ bound * denominator) (small : bound ≤ 2 ^ (53 + shift)) :
    grid < denominator * 2 ^ shift := by
  have step : 0 < denominator * 2 ^ shift := Nat.mul_pos positive (Nat.two_pow_pos shift)
  have scaled : 10 ^ 16 * grid ≤ 2 ^ 53 * (denominator * 2 ^ shift) :=
    calc
      10 ^ 16 * grid ≤ 2 ^ (53 + shift) * denominator :=
        Nat.le_trans fine (Nat.mul_le_mul_right _ small)
      _ = 2 ^ 53 * (denominator * 2 ^ shift) := by
        rw [Nat.pow_add, Nat.mul_assoc, Nat.mul_comm (2 ^ shift)]
  omega

/-- A multiple of a fine grid that is nearest to a magnitude is rounded to it. -/
theorem roundedQuotient_fine {units denominator grid count : Nat} (positive : 0 < denominator)
    (nonzero : units ≠ 0) (aligned : 2 ^ (units.log2 - 52) ∣ units)
    (fine : 10 ^ 16 * grid ≤ units * denominator)
    (upper : 2 * (count * grid) ≤ 2 * (units * denominator) + grid)
    (lower : 2 * (units * denominator) ≤ 2 * (count * grid) + grid) :
    roundedQuotient (count * grid) denominator = units := by
  have leading := Nat.log2_self_le nonzero
  have bounded : units < 2 ^ (units.log2 + 1) := Nat.lt_log2_self
  generalize units.log2 = exponent at *
  generalize count * grid = numerator at *
  have close : grid < denominator * 2 ^ (exponent - 52) :=
    grid_lt_step positive fine
      (Nat.le_trans (Nat.le_of_lt bounded) (Nat.pow_le_pow_right (by decide) (by omega)))
  have step : units + 2 ^ (exponent - 52) ≤ 2 ^ (exponent + 1) :=
    Nat.add_le_of_le_sub' (Nat.le_of_lt bounded) (Nat.le_of_dvd (Nat.sub_pos_of_lt bounded)
      (Nat.dvd_sub (Nat.pow_dvd_pow 2 (by omega)) aligned))
  have stepScaled := Nat.mul_le_mul_right denominator step
  have commuted := Nat.mul_comm denominator (2 ^ (exponent - 52))
  rw [Nat.add_mul] at stepScaled
  by_cases inside : 2 ^ exponent * denominator ≤ numerator
  · -- The quotient has the leading bit of the magnitude.
    have low : 2 ^ exponent ≤ numerator / denominator := (Nat.le_div_iff_mul_le positive).2 inside
    have high : numerator / denominator < 2 ^ (exponent + 1) :=
      (Nat.div_lt_iff_lt_mul positive).2 (by omega)
    have power := Nat.two_pow_pos exponent
    have scale : (numerator / denominator).log2 = exponent :=
      (Nat.log2_eq_iff (by omega)).2 ⟨low, high⟩
    exact roundedQuotient_near (by rw [scale]) aligned (by omega) (by omega)
  · -- The magnitude is a power of two, and the quotient is below it.
    have power : units = 2 ^ exponent := by
      have near : units < 2 ^ exponent + 2 ^ (exponent - 52) := by
        refine Nat.lt_of_mul_lt_mul_right (a := denominator) ?_
        rw [Nat.add_mul]
        omega
      have difference : 2 ^ (exponent - 52) ∣ units - 2 ^ exponent :=
        Nat.dvd_sub aligned (Nat.pow_dvd_pow 2 (by omega))
      have none := Nat.eq_zero_of_dvd_of_lt difference (by omega)
      omega
    subst power
    have closer : grid < denominator * 2 ^ (exponent - 1 - 52) :=
      grid_lt_step positive fine (Nat.pow_le_pow_right (by decide) (by omega))
    have scale : (numerator / denominator).log2 = exponent - 1 := by
      cases exponent with
      | zero =>
        rw [Nat.pow_zero, Nat.one_mul] at inside
        rw [Nat.div_eq_of_lt (by omega)]
        rfl
      | succ exponent =>
        have double : 2 ^ (exponent + 1) * denominator = 2 * (2 ^ exponent * denominator) := by
          rw [Nat.pow_succ', Nat.mul_assoc]
        have low : 2 ^ exponent ≤ numerator / denominator :=
          (Nat.le_div_iff_mul_le positive).2 (by omega)
        have high : numerator / denominator < 2 ^ (exponent + 1) :=
          (Nat.div_lt_iff_lt_mul positive).2 (by omega)
        have power := Nat.two_pow_pos exponent
        exact (Nat.log2_eq_iff (by omega)).2 ⟨low, high⟩
    exact roundedQuotient_near (by rw [scale]) (Nat.pow_dvd_pow 2 (by omega)) (by omega) (by omega)

end Binary64

end QuadrantChart
