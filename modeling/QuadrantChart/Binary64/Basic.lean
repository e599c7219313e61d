/-
This file defines binary floating point numbers of 53 significant bits and their rounding.
-/

namespace QuadrantChart

namespace Binary64

/-- Finite magnitudes are multiples of one unit, which is `2 ^ (-1074)`. -/
@[irreducible]
def unitsPerOne : Nat :=
  Nat.pow 2 1074

/-- Magnitudes from here on are infinite. -/
@[irreducible]
def overflowUnits : Nat :=
  Nat.pow 2 2098

/-- A magnitude below the overflow has no bit below its leading 53 bits. -/
def Representable (units : Nat) : Prop :=
  units < overflowUnits ∧ Nat.pow 2 (units.log2 - 52) ∣ units

/-- The quotient rounded to the nearest integer, where ties go to the even one. -/
def nearestEven (numerator denominator : Nat) : Nat :=
  let quotient := numerator / denominator
  let twice := 2 * (numerator % denominator)
  if twice < denominator then quotient
  else if denominator < twice then quotient + 1
  else quotient + quotient % 2

/-- The quotient rounded to 53 significant bits, or to an integer when it has fewer. -/
def roundedQuotient (numerator denominator : Nat) : Nat :=
  let shift := (numerator / denominator).log2 - 52
  nearestEven numerator (denominator * Nat.pow 2 shift) * Nat.pow 2 shift

theorem nearestEven_le (numerator denominator : Nat) :
    nearestEven numerator denominator ≤ numerator / denominator + 1 := by
  unfold nearestEven
  simp only
  split
  · omega
  · split <;> omega

theorem div_scale_lt (quotient shift : Nat) (enough : quotient.log2 - 52 ≤ shift) :
    quotient / Nat.pow 2 shift < Nat.pow 2 53 := by
  rw [Nat.pow_eq, Nat.pow_eq, Nat.div_lt_iff_lt_mul (Nat.two_pow_pos shift), ← Nat.pow_add]
  exact Nat.lt_of_lt_of_le Nat.lt_log2_self (Nat.pow_le_pow_right (by decide) (by omega))

theorem scaled_dvd (significand shift : Nat) (bound : significand ≤ Nat.pow 2 53) :
    Nat.pow 2 ((significand * Nat.pow 2 shift).log2 - 52) ∣ significand * Nat.pow 2 shift := by
  simp only [Nat.pow_eq] at bound ⊢
  rcases Nat.eq_zero_or_pos significand with zero | positive
  · simp [zero]
  have nonzero : significand * 2 ^ shift ≠ 0 :=
    Nat.mul_ne_zero (by omega) (by have := Nat.two_pow_pos shift; omega)
  rcases Nat.lt_or_eq_of_le bound with below | top
  · have small : (significand * 2 ^ shift).log2 < 53 + shift := by
      rw [Nat.log2_lt nonzero, Nat.pow_add]
      exact Nat.mul_lt_mul_of_pos_right below (Nat.two_pow_pos shift)
    exact Nat.dvd_trans (Nat.pow_dvd_pow 2 (by omega)) (Nat.dvd_mul_left _ _)
  · rw [top, ← Nat.pow_add, Nat.log2_two_pow]
    exact Nat.pow_dvd_pow 2 (by omega)

theorem roundedQuotient_dvd (numerator denominator : Nat) :
    Nat.pow 2 ((roundedQuotient numerator denominator).log2 - 52) ∣
      roundedQuotient numerator denominator := by
  apply scaled_dvd
  refine Nat.le_trans (nearestEven_le _ _) ?_
  rw [← Nat.div_div_eq_div_mul]
  exact div_scale_lt _ _ (Nat.le_refl _)

end Binary64

/-- A number is not a number, infinite, or a signed representable magnitude. -/
inductive Binary64 where
  | nan
  | infinite (negative : Bool)
  | finite (negative : Bool) (units : Nat) (representable : Binary64.Representable units)
  deriving DecidableEq

namespace Binary64

/-- The quotient of two counts, rounded, as a magnitude of as many units. -/
def ofUnits (negative : Bool) (numerator denominator : Nat) : Binary64 :=
  if below : roundedQuotient numerator denominator < overflowUnits then
    .finite negative (roundedQuotient numerator denominator)
      ⟨below, roundedQuotient_dvd numerator denominator⟩
  else
    .infinite negative

/-- The nearest number to a quotient of natural numbers. -/
def ofQuotient (negative : Bool) (numerator denominator : Nat) : Binary64 :=
  ofUnits negative (numerator * unitsPerOne) denominator

/-- The number with a small magnitude, for constants. -/
def ofNat (value : Nat) : Binary64 :=
  ofQuotient false value 1

instance (value : Nat) : OfNat Binary64 value :=
  ⟨ofNat value⟩

/-- The signed count of units of a finite number. -/
def signedUnits (negative : Bool) (units : Nat) : Int :=
  if negative then -(units : Int) else units

def isNan : Binary64 → Bool
  | .nan => true
  | _ => false

def isFinite : Binary64 → Bool
  | .finite _ _ _ => true
  | _ => false

def negate : Binary64 → Binary64
  | .nan => .nan
  | .infinite negative => .infinite !negative
  | .finite negative units representable => .finite (!negative) units representable

/-- The order of numbers, in which nothing is comparable with `nan` and both zeros are equal. -/
def lt : Binary64 → Binary64 → Bool
  | .nan, _ => false
  | _, .nan => false
  | .infinite left, .infinite right => left && !right
  | .infinite left, .finite _ _ _ => left
  | .finite _ _ _, .infinite right => !right
  | .finite left leftUnits _, .finite right rightUnits _ =>
    signedUnits left leftUnits < signedUnits right rightUnits

def le (left right : Binary64) : Bool :=
  !left.isNan && !right.isNan && !lt right left

/-- Numbers of equal value. -/
def eq (left right : Binary64) : Bool :=
  le left right && le right left

end Binary64

end QuadrantChart
