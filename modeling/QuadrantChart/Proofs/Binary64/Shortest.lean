/-
This file proves that the shortest decimal of a number reads back to it.
-/

import QuadrantChart.Proofs.Binary64.Rounding

namespace QuadrantChart

namespace Decimal

/-- Decimals of equal value. -/
def Same (left right : Decimal) : Prop :=
  left.digits * 10 ^ left.exponent.toNat * 10 ^ (-right.exponent).toNat =
    right.digits * 10 ^ right.exponent.toNat * 10 ^ (-left.exponent).toNat

/-- Moving a zero between the digits and the exponent keeps the value. -/
theorem same_shift (digits : Nat) (exponent : Int) :
    Same ⟨digits * 10, exponent⟩ ⟨digits, exponent + 1⟩ := by
  unfold Same
  dsimp only
  by_cases whole : 0 ≤ exponent
  · have raised : (exponent + 1).toNat = exponent.toNat + 1 := by omega
    have none : (-exponent).toNat = 0 := by omega
    have noneRaised : (-(exponent + 1)).toNat = 0 := by omega
    rw [raised, none, noneRaised, Nat.pow_succ, Nat.pow_zero, Nat.mul_one, Nat.mul_one,
      Nat.mul_assoc, Nat.mul_comm 10]
  · have lowered : (-exponent).toNat = (-(exponent + 1)).toNat + 1 := by omega
    have none : exponent.toNat = 0 := by omega
    have noneRaised : (exponent + 1).toNat = 0 := by omega
    rw [lowered, none, noneRaised, Nat.pow_succ', Nat.pow_zero, Nat.mul_one, Nat.mul_one,
      Nat.mul_assoc]

end Decimal

namespace Binary64

theorem ten_pow_positive (exponent : Nat) : 0 < 10 ^ exponent :=
  Nat.pow_pos (by decide)

theorem decimalUnits_eq (decimal : Decimal) :
    decimalUnits decimal =
      roundedQuotient (decimal.digits * 10 ^ decimal.exponent.toNat * unitsPerOne)
        (10 ^ (-decimal.exponent).toNat) :=
  rfl

theorem decimalUnits_same (left right : Decimal) (same : left.Same right) :
    decimalUnits left = decimalUnits right := by
  rw [decimalUnits_eq, decimalUnits_eq]
  apply roundedQuotient_congr _ _ _ _ (ten_pow_positive _) (ten_pow_positive _)
  rw [Nat.mul_right_comm _ unitsPerOne, same, Nat.mul_right_comm _ unitsPerOne]

theorem decimalUnits_stripZeros (digits : Nat) (exponent : Int) :
    decimalUnits (stripZeros digits exponent) = decimalUnits ⟨digits, exponent⟩ := by
  fun_induction stripZeros digits exponent with
  | case1 digits exponent zeros inductionHypothesis =>
    have last : digits / 10 * 10 = digits := Nat.div_mul_cancel (Nat.dvd_of_mod_eq_zero zeros.2)
    have shifted := Decimal.same_shift (digits / 10) exponent
    rw [last] at shifted
    rw [inductionHypothesis]
    exact (decimalUnits_same _ _ shifted).symm
  | case2 digits exponent zeros => rfl

theorem decimalUnits_onGrid (units : Nat) (exponent : Int) (decimal : Decimal)
    (found : decimalOnGrid? units exponent = some decimal) : decimalUnits decimal = units := by
  simp only [decimalOnGrid?] at found
  split at found
  · rename_i reads
    rwa [← Option.some.inj found]
  · split at found
    · rename_i reads
      rwa [← Option.some.inj found]
    · split at found
      · rename_i reads
        rwa [← Option.some.inj found]
      · cases found

theorem decimalUnits_exactPlaces (units places : Nat) (representable : Representable units)
    (power : unitsPerOne = 2 ^ places) :
    decimalUnits ⟨units * 5 ^ places, -places⟩ = units := by
  have unit : 5 ^ places * 2 ^ places = 10 ^ places := (Nat.mul_pow 5 2 places).symm
  have none : (-(places : Int)).toNat = 0 := by omega
  rw [decimalUnits_eq, none, Int.neg_neg, Int.toNat_natCast, Nat.pow_zero, Nat.mul_one, power,
    Nat.mul_assoc, unit]
  exact roundedQuotient_exact units _ (ten_pow_positive _) representable.2

theorem decimalUnits_exactDecimal (units : Nat) (representable : Representable units) :
    decimalUnits (exactDecimal units) = units := by
  obtain ⟨places, value, power⟩ := unitsPerOne_eq
  have exact : exactDecimal units = ⟨units * Nat.pow 5 1074, -(1074 : Nat)⟩ := rfl
  rw [exact, ← value, pow_eq]
  exact decimalUnits_exactPlaces units places representable power

theorem decimalUnits_shortestDecimal (units : Nat) (representable : Representable units) :
    decimalUnits (shortestDecimal units) = units := by
  simp only [shortestDecimal, decimalUnits_stripZeros]
  cases found : (List.range 18).findSome? fun (index : Nat) =>
      decimalOnGrid? units (decimalCeiling units - index - 1) with
  | none => exact decimalUnits_exactDecimal units representable
  | some decimal =>
    obtain ⟨index, _, onGrid⟩ := List.exists_of_findSome?_eq_some found
    exact decimalUnits_onGrid units _ decimal onGrid

/-- Eight is below ten. -/
theorem two_pow_le_ten_pow (binary decimal : Nat) (bound : binary ≤ 3 * decimal) :
    2 ^ binary ≤ 10 ^ decimal := by
  calc
    2 ^ binary ≤ 2 ^ (3 * decimal) := Nat.pow_le_pow_right (by decide) bound
    _ = 8 ^ decimal := Nat.pow_mul 2 3 decimal
    _ ≤ 10 ^ decimal := Nat.pow_le_pow_left (by decide) decimal

/-- Beyond the exponents that are expanded every magnitude is infinite. -/
theorem overflow_le_decimalUnits (decimal : Decimal) (nonzero : decimal.digits ≠ 0)
    (large : 400 < decimal.exponent) : overflowUnits ≤ decimalUnits decimal := by
  obtain ⟨unitPlaces, unitValue, unit⟩ := unitsPerOne_eq
  obtain ⟨limitPlaces, limitValue, limit⟩ := overflowUnits_eq
  have none : (-decimal.exponent).toNat = 0 := by omega
  have bound : 2 ^ limitPlaces ≤ decimal.digits * 10 ^ decimal.exponent.toNat * unitsPerOne := by
    calc
      2 ^ limitPlaces = 1 * 2 ^ (limitPlaces - unitPlaces) * 2 ^ unitPlaces := by
        rw [Nat.one_mul, ← Nat.pow_add]
        congr 1
        omega
      _ ≤ decimal.digits * 10 ^ decimal.exponent.toNat * 2 ^ unitPlaces :=
        Nat.mul_le_mul_right _ (Nat.mul_le_mul (Nat.pos_of_ne_zero nonzero)
          (two_pow_le_ten_pow _ _ (by omega)))
      _ = decimal.digits * 10 ^ decimal.exponent.toNat * unitsPerOne := by rw [unit]
  rw [limit, decimalUnits_eq]
  apply two_pow_le_roundedQuotient
  rw [none, Nat.pow_zero, Nat.div_one]
  exact bound

/-- Below the exponents that are expanded every magnitude vanishes. -/
theorem decimalUnits_vanish (decimal : Decimal)
    (small : decimal.exponent + decimal.digits.log2 + 400 < 0) : decimalUnits decimal = 0 := by
  obtain ⟨unitPlaces, unitValue, unit⟩ := unitsPerOne_eq
  have none : decimal.exponent.toNat = 0 := by omega
  have digitsBound : decimal.digits < 2 ^ (decimal.digits.log2 + 1) := Nat.lt_log2_self
  rw [decimalUnits_eq]
  apply roundedQuotient_small
  rw [none, Nat.pow_zero, Nat.mul_one, unit]
  calc
    2 * (decimal.digits * 2 ^ unitPlaces) <
        2 * (2 ^ (decimal.digits.log2 + 1) * 2 ^ unitPlaces) :=
      Nat.mul_lt_mul_of_pos_left
        (Nat.mul_lt_mul_of_pos_right digitsBound (Nat.two_pow_pos _)) (by decide)
    _ = 2 ^ (decimal.digits.log2 + 1 + unitPlaces + 1) := by
      rw [← Nat.pow_add, ← Nat.pow_succ']
    _ ≤ 10 ^ (-decimal.exponent).toNat := two_pow_le_ten_pow _ _ (by omega)

/-- A decimal near a positive finite magnitude has neither of the exponents that are
not expanded. -/
theorem ofDecimal_eq (negative : Bool) (decimal : Decimal) (units : Nat) (positive : units ≠ 0)
    (representable : Representable units) (near : decimalUnits decimal = units) :
    ofDecimal negative decimal = .finite negative units representable := by
  have nonzero : decimal.digits ≠ 0 := by
    intro zero
    apply positive
    rw [← near, decimalUnits_eq, zero, Nat.zero_mul, Nat.zero_mul]
    exact roundedQuotient_small 0 _ (ten_pow_positive _)
  have notLarge : ¬400 < decimal.exponent := fun large =>
    Nat.not_lt.2 (overflow_le_decimalUnits decimal nonzero large) (near ▸ representable.1)
  have notSmall : ¬decimal.exponent + decimal.digits.log2 + 400 < 0 := fun small =>
    positive (near ▸ decimalUnits_vanish decimal small)
  rw [ofDecimal, if_neg nonzero, if_neg notLarge, if_neg notSmall]
  exact ofUnits_eq negative _ _ units representable near

theorem ofDecimal_zero (negative : Bool) (decimal : Decimal) (zero : decimal.digits = 0)
    (representable : Representable 0) :
    ofDecimal negative decimal = .finite negative 0 representable := by
  rw [ofDecimal, if_pos zero]
  exact ofUnits_eq negative 0 1 0 representable (roundedQuotient_small 0 1 (by decide))

end Binary64

end QuadrantChart
