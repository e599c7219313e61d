/-
This file proves when finite numbers stay finite as they are scaled down and shifted.
-/

import QuadrantChart.Proofs.Binary64.Amount
import QuadrantChart.Proofs.Chart.Coordinates

namespace QuadrantChart

namespace Binary64

/-- Half the distance of the greatest finite magnitude from the overflow. -/
@[irreducible]
def slackUnits : Nat :=
  2 ^ 2044

/-- A magnitude that keeps more than the slack from the overflow is not rounded up to it. -/
theorem rounded_below_overflow {units : Nat} (below : units + slackUnits < overflowUnits) :
    roundedQuotient units 1 < overflowUnits := by
  have last : roundedQuotient (overflowUnits - slackUnits - 1) 1 < overflowUnits := by
    decide +kernel
  refine Nat.lt_of_le_of_lt (roundedQuotient_mono 1 ?_) last
  omega

/-- Finite magnitudes end at twice the slack before the overflow. -/
theorem Representable.below_slack {units : Nat} (representable : Representable units) :
    units + 2 * slackUnits ≤ overflowUnits := by
  obtain ⟨below, aligned⟩ := representable
  obtain ⟨places, exponent, power⟩ := overflowUnits_eq
  obtain ⟨lower, rfl⟩ : ∃ lower, places = lower + 53 := ⟨2045, exponent⟩
  have slack : 2 * slackUnits = 2 ^ lower := by
    have same : lower = 2045 := by omega
    subst same
    decide +kernel
  have split : (2 : Nat) ^ (lower + 53) = 2 ^ lower * 2 ^ 53 := Nat.pow_add _ _ _
  rw [power, split] at below
  rw [slack, power, split]
  by_cases leading : lower + 52 ≤ units.log2
  · -- The magnitude is a multiple of the distance between the greatest ones.
    obtain ⟨count, rfl⟩ : 2 ^ lower ∣ units :=
      Nat.dvd_trans (Nat.pow_dvd_pow 2 (by omega)) aligned
    have fewer : count + 1 ≤ 2 ^ 53 := Nat.lt_of_mul_lt_mul_left below
    calc
      2 ^ lower * count + 2 ^ lower = 2 ^ lower * (count + 1) := (Nat.mul_succ _ _).symm
      _ ≤ 2 ^ lower * 2 ^ 53 := Nat.mul_le_mul_left _ fewer
  · have short : units < 2 ^ (lower + 52) := by
      refine Nat.lt_of_lt_of_le Nat.lt_log2_self (Nat.pow_le_pow_right (by decide) ?_)
      omega
    rw [Nat.pow_add] at short
    omega

theorem ofSignedUnits_isFinite {zeroNegative : Bool} {sum : Int} :
    (ofSignedUnits zeroNegative sum).isFinite = true ↔
      roundedQuotient sum.natAbs 1 < overflowUnits := by
  unfold ofSignedUnits
  split_ifs with zero
  · rw [zero]
    exact ofUnits_isFinite
  · exact ofUnits_isFinite

theorem IsAmount.isFinite {value : Binary64} {units : Nat} (amount : value.IsAmount units) :
    value.isFinite = true := by
  obtain ⟨_, _, _, rfl, -⟩ := amount
  rfl

@[simp]
theorem natAbs_signedUnits (negative : Bool) (units : Nat) :
    (signedUnits negative units).natAbs = units := by
  cases negative <;> simp [signedUnits]

/-- The sum of an amount and a shift is finite unless its magnitude is rounded to the overflow. -/
theorem IsAmount.shift_isFinite {value : Binary64} {units : Nat} (amount : value.IsAmount units)
    (negative : Bool) (magnitude : Nat) (representable : Representable magnitude) :
    (value + .finite negative magnitude representable).isFinite = true ↔
      roundedQuotient ((units : Int) + signedUnits negative magnitude).natAbs 1 <
        overflowUnits := by
  obtain ⟨_, _, _, rfl, signed⟩ := amount
  rw [← signed]
  exact ofSignedUnits_isFinite

/-- A shift that keeps a greater amount finite keeps a smaller one finite. -/
theorem IsAmount.shift {value far shift : Binary64} {units reach : Nat}
    (amount : value.IsAmount units) (farAmount : far.IsAmount reach) (order : units ≤ reach)
    (finite : (far + shift).isFinite = true) : (value + shift).isFinite = true := by
  obtain ⟨-, shiftFinite⟩ := finite_of_add finite
  cases shift with
  | nan | infinite => cases shiftFinite
  | finite negative magnitude representable =>
    rw [farAmount.shift_isFinite] at finite
    rw [amount.shift_isFinite]
    have absolute := natAbs_signedUnits negative magnitude
    generalize signedUnits negative magnitude = signed at *
    by_cases notNegative : 0 ≤ (units : Int) + signed
    · exact Nat.lt_of_le_of_lt (roundedQuotient_mono 1 (by omega)) finite
    · -- The shift itself goes further than the sum.
      calc
        roundedQuotient ((units : Int) + signed).natAbs 1 ≤ roundedQuotient magnitude 1 :=
          roundedQuotient_mono 1 (by omega)
        _ = magnitude := roundedQuotient_one representable
        _ < overflowUnits := representable.1

/-- The same holds of a shift in the other direction. -/
theorem IsAmount.shift_back {value far shift : Binary64} {units reach : Nat}
    (amount : value.IsAmount units) (farAmount : far.IsAmount reach) (order : units ≤ reach)
    (finite : (far - shift).isFinite = true) : (value - shift).isFinite = true :=
  amount.shift farAmount order finite

/-- Half of a quotient is not rounded to more than the quotient itself. -/
theorem roundedQuotient_half (numerator : Nat) :
    roundedQuotient numerator 2 ≤ roundedQuotient numerator 1 :=
  calc
    roundedQuotient numerator 2 ≤ roundedQuotient (numerator * 2) (1 * 2) :=
      roundedQuotient_mono 2 (by omega)
    _ = roundedQuotient numerator 1 := roundedQuotient_scale numerator 1 2 (by decide)

/-- A finite number that is too small to make any finite one overflow. -/
def IsSlight (value : Binary64) : Prop :=
  ∃ negative magnitude representable, value = .finite negative magnitude representable ∧
    magnitude < slackUnits

instance : (value : Binary64) → Decidable value.IsSlight
  | .nan => isFalse nofun
  | .infinite _ => isFalse nofun
  | .finite negative magnitude representable =>
    decidable_of_iff (magnitude < slackUnits)
      ⟨fun small => ⟨negative, magnitude, representable, rfl, small⟩,
        fun ⟨_, _, _, same, small⟩ => (Binary64.finite.inj same).2 ▸ small⟩

theorem ofUnits_isSlight {negative : Bool} {numerator denominator : Nat} :
    (ofUnits negative numerator denominator).IsSlight ↔
      roundedQuotient numerator denominator < slackUnits := by
  have finite : slackUnits < overflowUnits := by decide +kernel
  constructor
  · rintro ⟨_, _, _, value, small⟩
    unfold ofUnits at value
    split_ifs at value
    cases value
    exact small
  · intro small
    have below := Nat.lt_trans small finite
    exact ⟨negative, _, ⟨below, roundedQuotient_dvd _ _⟩, by simp [ofUnits, below], small⟩

theorem IsSlight.isFinite {value : Binary64} (slight : value.IsSlight) : value.isFinite = true := by
  obtain ⟨_, _, _, rfl, -⟩ := slight
  rfl

theorem IsSlight.negate {value : Binary64} (slight : value.IsSlight) : value.negate.IsSlight := by
  obtain ⟨negative, magnitude, representable, rfl, small⟩ := slight
  exact ⟨!negative, magnitude, representable, rfl, small⟩

theorem IsSlight.half {value : Binary64} (slight : value.IsSlight) : (value / 2).IsSlight := by
  obtain ⟨negative, magnitude, representable, rfl, small⟩ := slight
  obtain ⟨fits, two⟩ := two_finite
  have positive := unitsPerOne_positive
  have quotient : .finite negative magnitude representable / (2 : Binary64) =
      ofUnits (negative != false) (magnitude * unitsPerOne) (2 * unitsPerOne) := by
    rw [two]
    exact if_neg (by omega)
  have halved : roundedQuotient (magnitude * unitsPerOne) (2 * unitsPerOne) ≤ magnitude := by
    rw [roundedQuotient_scale _ _ _ positive]
    exact roundedQuotient_le (by decide) representable.2 (by omega)
  rw [quotient, ofUnits_isSlight]
  exact Nat.lt_of_le_of_lt halved small

/-- A slight shift keeps every finite number finite. -/
theorem IsSlight.shift {value shift : Binary64} (slight : shift.IsSlight)
    (finite : value.isFinite = true) : (value + shift).isFinite = true := by
  obtain ⟨negative, magnitude, representable, rfl, small⟩ := slight
  cases value with
  | nan | infinite => cases finite
  | finite valueNegative units fits =>
    have room := fits.below_slack
    have shiftAbsolute := natAbs_signedUnits negative magnitude
    have valueAbsolute := natAbs_signedUnits valueNegative units
    refine ofSignedUnits_isFinite.2 (rounded_below_overflow ?_)
    omega

theorem IsSlight.shift_back {value shift : Binary64} (slight : shift.IsSlight)
    (finite : value.isFinite = true) : (value - shift).isFinite = true :=
  slight.negate.shift finite

theorem mul_comm (left right : Binary64) : left * right = right * left := by
  change mul left right = mul right left
  cases left <;> cases right <;> simp only [mul, bne_comm, Nat.mul_comm]

theorem one_mul (value : Binary64) : 1 * value = value := by
  rw [mul_comm, mul_one]

/-- A number between zero and one is an amount of at most one. -/
theorem InUnit.amount {value : Binary64} (inside : value.InUnit) :
    ∃ units, value.IsAmount units ∧ units ≤ unitsPerOne := by
  obtain ⟨isNumber, lower, upper⟩ := inside
  obtain ⟨_, zero⟩ := zero_finite
  obtain ⟨_, one⟩ := one_finite
  rw [zero] at lower
  rw [one] at upper
  cases value with
  | nan => cases isNumber
  | infinite negative => cases negative <;> simp [le, lt, isNan] at lower upper
  | finite negative units representable =>
    simp only [le, lt, isNan, Bool.not_false, Bool.true_and, Bool.not_eq_true',
      decide_eq_false_iff_not, Int.not_lt] at lower upper
    have none : signedUnits false 0 = 0 := rfl
    have all : signedUnits false unitsPerOne = unitsPerOne := rfl
    rw [none] at lower
    rw [all] at upper
    exact ⟨(signedUnits negative units).toNat, ⟨negative, units, representable, rfl, by omega⟩,
      by omega⟩

/-- A part of an amount is rounded once. -/
def scaledUnits (part units : Nat) : Nat :=
  roundedQuotient (part * units) unitsPerOne

theorem scaledUnits_mono {part other : Nat} (units : Nat) (order : part ≤ other) :
    scaledUnits part units ≤ scaledUnits other units :=
  roundedQuotient_mono _ (Nat.mul_le_mul_right units order)

theorem scaledUnits_one {units : Nat} (representable : Representable units) :
    scaledUnits unitsPerOne units = units := by
  rw [scaledUnits, Nat.mul_comm]
  exact roundedQuotient_exact units _ unitsPerOne_positive representable.2

theorem scaledUnits_le {part units : Nat} (representable : Representable units)
    (inside : part ≤ unitsPerOne) : scaledUnits part units ≤ units := by
  have order := scaledUnits_mono units inside
  rwa [scaledUnits_one representable] at order

theorem IsAmount.scaled {part whole : Binary64} {partUnits units : Nat}
    (partAmount : part.IsAmount partUnits) (inside : partUnits ≤ unitsPerOne)
    (amount : whole.IsAmount units) : (part * whole).IsAmount (scaledUnits partUnits units) := by
  obtain ⟨partNegative, partFits, rfl, partSign⟩ := partAmount.shape
  obtain ⟨negative, fits, rfl, sign⟩ := amount.shape
  refine ofUnits_amount (fun isNegative => ?_)
    (Nat.lt_of_le_of_lt (scaledUnits_le fits inside) fits.1)
  cases partNegative <;> cases negative <;> simp_all

/-- A part of an amount is at most the amount. -/
theorem IsAmount.part {part whole : Binary64} {partUnits units : Nat}
    (partAmount : part.IsAmount partUnits) (inside : partUnits ≤ unitsPerOne)
    (amount : whole.IsAmount units) :
    ∃ product ≤ units, (part * whole).IsAmount product :=
  ⟨_, scaledUnits_le amount.representable inside, partAmount.scaled inside amount⟩

theorem IsAmount.none_of {whole : Binary64} {units : Nat} (amount : whole.IsAmount units) :
    (0 * whole).IsAmount 0 := by
  obtain ⟨zeroFits, zero⟩ := zero_finite
  obtain ⟨negative, fits, rfl, -⟩ := amount.shape
  rw [zero]
  refine ⟨_, 0, zeroFits, ofUnits_eq _ _ _ 0 zeroFits ?_, ?_⟩
  · simp [roundedQuotient, nearestEven]
  · cases negative <;> rfl

theorem IsAmount.sub_le {whole part : Binary64} {units partUnits : Nat}
    (amount : whole.IsAmount units) (partAmount : part.IsAmount partUnits)
    (order : partUnits ≤ units) : ∃ rest ≤ units, (whole - part).IsAmount rest := by
  refine ⟨_, ?_, amount.sub partAmount order⟩
  exact roundedQuotient_le (by decide) amount.representable.2 (by omega)

/-- A greater amount that can be added to another one bounds what a smaller one adds up to. -/
theorem IsAmount.add_le {base value far : Binary64} {baseUnits units farUnits : Nat}
    (baseAmount : base.IsAmount baseUnits) (amount : value.IsAmount units)
    (farAmount : far.IsAmount farUnits) (order : units ≤ farUnits)
    (finite : (base + far).isFinite = true) :
    ∃ sum ≤ roundedQuotient (baseUnits + farUnits) 1, (base + value).IsAmount sum := by
  have below := baseAmount.add_below farAmount finite
  have sumOrder : roundedQuotient (baseUnits + units) 1 ≤
      roundedQuotient (baseUnits + farUnits) 1 := roundedQuotient_mono 1 (by omega)
  exact ⟨_, sumOrder, baseAmount.add_amount amount (Nat.lt_of_le_of_lt sumOrder below)⟩

end Binary64

end QuadrantChart
