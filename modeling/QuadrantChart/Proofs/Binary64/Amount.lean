/-
This file computes with finite numbers that are not negative, as counts of units.
-/

import QuadrantChart.Binary64.Length
import QuadrantChart.Proofs.Binary64.Monotone
import QuadrantChart.Proofs.Binary64.RoundTrip

namespace QuadrantChart

namespace Binary64

/-- A finite number that is not negative, as a count of units. A zero has either sign. -/
def IsAmount (value : Binary64) (units : Nat) : Prop :=
  ∃ negative magnitude representable, value = .finite negative magnitude representable ∧
    signedUnits negative magnitude = units

theorem signedUnits_cases {negative : Bool} {magnitude units : Nat}
    (amount : signedUnits negative magnitude = units) :
    magnitude = units ∧ (negative = true → units = 0) := by
  cases negative <;> simp [signedUnits] at amount ⊢ <;> omega

/-- A count of units is the magnitude of its number. -/
theorem IsAmount.shape {value : Binary64} {units : Nat} (amount : value.IsAmount units) :
    ∃ negative representable, value = .finite negative units representable ∧
      (negative = true → units = 0) := by
  obtain ⟨negative, magnitude, representable, rfl, signed⟩ := amount
  obtain ⟨rfl, zero⟩ := signedUnits_cases signed
  exact ⟨negative, representable, rfl, zero⟩

theorem IsAmount.representable {value : Binary64} {units : Nat} (amount : value.IsAmount units) :
    Representable units := by
  obtain ⟨negative, representable, -, -⟩ := amount.shape
  exact representable

theorem IsAmount.rounded {value : Binary64} {units : Nat} (amount : value.IsAmount units) :
    roundedQuotient units 1 = units :=
  roundedQuotient_one amount.representable

theorem zero_finite : ∃ representable, (0 : Binary64) = .finite false 0 representable :=
  ⟨⟨by decide +kernel, by decide +kernel⟩, by decide +kernel⟩

theorem one_finite : ∃ representable, (1 : Binary64) = .finite false unitsPerOne representable :=
  ⟨⟨by decide +kernel, by decide +kernel⟩, by decide +kernel⟩

theorem two_finite :
    ∃ representable, (2 : Binary64) = .finite false (2 * unitsPerOne) representable :=
  ⟨⟨by decide +kernel, by decide +kernel⟩, by decide +kernel⟩

theorem ofUnits_isFinite {negative : Bool} {numerator denominator : Nat} :
    (ofUnits negative numerator denominator).isFinite = true ↔
      roundedQuotient numerator denominator < overflowUnits := by
  unfold ofUnits
  split <;> simp_all [isFinite]

theorem ofUnits_amount {negative : Bool} {numerator denominator : Nat}
    (sign : negative = true → numerator = 0)
    (below : roundedQuotient numerator denominator < overflowUnits) :
    (ofUnits negative numerator denominator).IsAmount
      (roundedQuotient numerator denominator) := by
  refine ⟨negative, _, ⟨below, roundedQuotient_dvd _ _⟩, by simp [ofUnits, below], ?_⟩
  cases negative with
  | false => rfl
  | true =>
    have zero : roundedQuotient 0 denominator = 0 := by simp [roundedQuotient, nearestEven]
    rw [sign rfl, zero]
    rfl

theorem ofUnits_exact (negative : Bool) {units : Nat} (representable : Representable units) :
    ofUnits negative units 1 = .finite negative units representable :=
  ofUnits_eq _ _ _ _ _ (roundedQuotient_one representable)

theorem ofSignedUnits_nat (zeroNegative : Bool) (sum : Nat) :
    ∃ negative, ofSignedUnits zeroNegative sum = ofUnits negative sum 1 ∧
      (negative = true → sum = 0) := by
  by_cases zero : sum = 0
  · exact ⟨zeroNegative, by simp [ofSignedUnits, zero], fun _ => zero⟩
  · refine ⟨false, ?_, fun impossible => nomatch impossible⟩
    have notBelow : ¬(sum : Int) < 0 := by omega
    simp [ofSignedUnits, zero, notBelow]

/-- The sum of two amounts is rounded once. -/
theorem IsAmount.add {left right : Binary64} {leftUnits rightUnits : Nat}
    (leftAmount : left.IsAmount leftUnits) (rightAmount : right.IsAmount rightUnits) :
    ∃ negative, left + right = ofUnits negative (leftUnits + rightUnits) 1 ∧
      (negative = true → leftUnits + rightUnits = 0) := by
  obtain ⟨leftNegative, leftMagnitude, leftFits, rfl, leftSigned⟩ := leftAmount
  obtain ⟨rightNegative, rightMagnitude, rightFits, rfl, rightSigned⟩ := rightAmount
  change ∃ negative, ofSignedUnits _ (signedUnits leftNegative leftMagnitude +
    signedUnits rightNegative rightMagnitude) = _ ∧ _
  rw [leftSigned, rightSigned, ← Int.natCast_add]
  exact ofSignedUnits_nat _ _

theorem IsAmount.add_amount {left right : Binary64} {leftUnits rightUnits : Nat}
    (leftAmount : left.IsAmount leftUnits) (rightAmount : right.IsAmount rightUnits)
    (below : roundedQuotient (leftUnits + rightUnits) 1 < overflowUnits) :
    (left + right).IsAmount (roundedQuotient (leftUnits + rightUnits) 1) := by
  obtain ⟨negative, sum, sign⟩ := leftAmount.add rightAmount
  rw [sum]
  exact ofUnits_amount sign below

theorem IsAmount.add_below {left right : Binary64} {leftUnits rightUnits : Nat}
    (leftAmount : left.IsAmount leftUnits) (rightAmount : right.IsAmount rightUnits)
    (finite : (left + right).isFinite = true) :
    roundedQuotient (leftUnits + rightUnits) 1 < overflowUnits := by
  obtain ⟨negative, sum, -⟩ := leftAmount.add rightAmount
  rw [sum] at finite
  exact ofUnits_isFinite.1 finite

theorem finite_of_add {left right : Binary64} (finite : (left + right).isFinite = true) :
    left.isFinite = true ∧ right.isFinite = true := by
  change (add left right).isFinite = true at finite
  cases left <;> cases right <;> simp only [add] at finite
  case infinite.infinite => split at finite <;> cases finite
  case finite.finite => exact ⟨rfl, rfl⟩
  all_goals cases finite

theorem IsAmount.same {left right : Binary64} {units : Nat} (leftAmount : left.IsAmount units)
    (rightAmount : right.IsAmount units) : Same left right := by
  obtain ⟨_, _, _, rfl, leftSigned⟩ := leftAmount
  obtain ⟨_, _, _, rfl, rightSigned⟩ := rightAmount
  exact leftSigned.trans rightSigned.symm

theorem IsAmount.of_same {left right : Binary64} {units : Nat} (amount : left.IsAmount units)
    (same : Same left right) : right.IsAmount units := by
  obtain ⟨negative, magnitude, representable, rfl, signed⟩ := amount
  cases right with
  | nan => cases same
  | infinite other => cases same
  | finite other otherMagnitude fits =>
    exact ⟨other, otherMagnitude, fits, rfl, same.symm.trans signed⟩

theorem IsAmount.unique {value : Binary64} {units otherUnits : Nat} (amount : value.IsAmount units)
    (otherAmount : value.IsAmount otherUnits) : units = otherUnits := by
  obtain ⟨_, _, shape, _⟩ := amount.shape
  obtain ⟨_, _, otherShape, _⟩ := otherAmount.shape
  cases shape.symm.trans otherShape
  rfl

theorem signedUnits_not (negative : Bool) (units : Nat) :
    signedUnits (!negative) units = -signedUnits negative units := by
  cases negative <;> simp [signedUnits]

/-- The difference of two amounts is rounded once. -/
theorem IsAmount.sub {left right : Binary64} {leftUnits rightUnits : Nat}
    (leftAmount : left.IsAmount leftUnits) (rightAmount : right.IsAmount rightUnits)
    (order : rightUnits ≤ leftUnits) :
    (left - right).IsAmount (roundedQuotient (leftUnits - rightUnits) 1) := by
  have below : roundedQuotient (leftUnits - rightUnits) 1 < overflowUnits := by
    calc
      roundedQuotient (leftUnits - rightUnits) 1 ≤ roundedQuotient leftUnits 1 :=
        roundedQuotient_mono 1 (Nat.sub_le _ _)
      _ = leftUnits := leftAmount.rounded
      _ < overflowUnits := leftAmount.representable.1
  obtain ⟨leftNegative, leftMagnitude, leftFits, rfl, leftSigned⟩ := leftAmount
  obtain ⟨rightNegative, rightMagnitude, rightFits, rfl, rightSigned⟩ := rightAmount
  change (ofSignedUnits _ (signedUnits leftNegative leftMagnitude +
    signedUnits (!rightNegative) rightMagnitude)).IsAmount _
  rw [signedUnits_not, leftSigned, rightSigned, ← Int.sub_eq_add_neg, ← Int.ofNat_sub order]
  obtain ⟨negative, sum, sign⟩ := ofSignedUnits_nat (leftNegative && !rightNegative)
    (leftUnits - rightUnits)
  rw [sum]
  exact ofUnits_amount sign below

theorem IsAmount.sub_self {value : Binary64} {units : Nat} (amount : value.IsAmount units) :
    (value - value).IsAmount 0 := by
  have difference := amount.sub amount (Nat.le_refl units)
  rw [Nat.sub_self] at difference
  exact difference

/-- Half of an amount is rounded once. -/
theorem IsAmount.half {value : Binary64} {units : Nat} (amount : value.IsAmount units) :
    (value / 2).IsAmount (roundedQuotient units 2) := by
  have positive := unitsPerOne_positive
  obtain ⟨negative, representable, rfl, sign⟩ := amount.shape
  obtain ⟨fits, two⟩ := two_finite
  have quotient : .finite negative units representable / (2 : Binary64) =
      ofUnits (negative != false) (units * unitsPerOne) (2 * unitsPerOne) := by
    rw [two]
    exact if_neg (by omega)
  have below : roundedQuotient units 2 < overflowUnits := by
    calc
      roundedQuotient units 2 ≤ units :=
        roundedQuotient_le (by decide) representable.2 (by omega)
      _ < overflowUnits := representable.1
  rw [quotient, Bool.bne_false]
  rw [← roundedQuotient_scale units 2 unitsPerOne positive] at below ⊢
  exact ofUnits_amount (fun isNegative => by rw [sign isNegative, Nat.zero_mul]) below

/-- Twice an amount is rounded once. -/
theorem IsAmount.twice {value : Binary64} {units : Nat} (amount : value.IsAmount units)
    (finite : (2 * value).isFinite = true) :
    (2 * value).IsAmount (roundedQuotient (2 * units) 1) := by
  obtain ⟨negative, representable, rfl, sign⟩ := amount.shape
  obtain ⟨fits, two⟩ := two_finite
  have product : (2 : Binary64) * .finite negative units representable =
      ofUnits (false != negative) (2 * unitsPerOne * units) unitsPerOne := by
    rw [two]
    rfl
  have scaled : roundedQuotient (2 * unitsPerOne * units) unitsPerOne =
      roundedQuotient (2 * units) 1 := by
    have same := roundedQuotient_scale (2 * units) 1 unitsPerOne unitsPerOne_positive
    rwa [Nat.one_mul, Nat.mul_right_comm] at same
  rw [product] at finite ⊢
  rw [← scaled]
  refine ofUnits_amount (fun isNegative => ?_) (ofUnits_isFinite.1 finite)
  rw [sign (by simpa using isNegative), Nat.mul_zero]

/-- A number times one is the number itself. -/
theorem mul_one (value : Binary64) : value * 1 = value := by
  obtain ⟨fits, one⟩ := one_finite
  have positive : unitsPerOne ≠ 0 := Nat.ne_of_gt unitsPerOne_positive
  rw [one]
  cases value with
  | nan => rfl
  | infinite negative =>
    change (if unitsPerOne = 0 then nan else infinite (negative != false)) = _
    rw [if_neg positive, Bool.bne_false]
  | finite negative units representable =>
    change ofUnits (negative != false) (units * unitsPerOne) unitsPerOne = _
    rw [Bool.bne_false]
    exact ofUnits_eq _ _ _ _ _
      (roundedQuotient_exact units _ unitsPerOne_positive representable.2)

/-- A zero of either sign changes no value. -/
theorem add_zero_same (value : Binary64) (negative : Bool) (representable : Representable 0) :
    Same (value + .finite negative 0 representable) value := by
  cases value with
  | nan => trivial
  | infinite infiniteNegative => rfl
  | finite valueNegative units fits =>
    have none : signedUnits negative 0 = 0 := by cases negative <;> rfl
    change Same (ofSignedUnits _ (signedUnits valueNegative units + signedUnits negative 0)) _
    rw [none, Int.add_zero]
    by_cases zero : signedUnits valueNegative units = 0
    · rw [ofSignedUnits, if_pos zero, ofUnits_exact _ representable]
      change signedUnits _ 0 = signedUnits valueNegative units
      rw [zero]
      simp [signedUnits]
    · have sign : decide (signedUnits valueNegative units < 0) = valueNegative := by
        cases valueNegative with
        | false => simp [signedUnits]
        | true => simpa [signedUnits, Nat.pos_iff_ne_zero] using zero
      have magnitude : (signedUnits valueNegative units).natAbs = units := by
        cases valueNegative <;> simp [signedUnits]
      rw [ofSignedUnits, if_neg zero, sign, magnitude, ofUnits_exact _ fits]
      exact same_refl _

/-- Sums of numbers of equal value have equal values. -/
theorem add_same {left right otherLeft otherRight : Binary64} (leftSame : Same left otherLeft)
    (rightSame : Same right otherRight) : Same (left + right) (otherLeft + otherRight) := by
  cases left <;> cases otherLeft <;> cases right <;> cases otherRight <;>
    simp only [Same] at leftSame rightSame <;> try trivial
  case infinite.infinite.infinite.infinite =>
    rw [leftSame, rightSame]
    exact same_refl _
  case finite.finite.finite.finite left _ _ other _ _ right _ _ otherRight _ _ =>
    change Same (ofSignedUnits (left && right) _) (ofSignedUnits (other && otherRight) _)
    rw [leftSame, rightSame]
    unfold ofSignedUnits
    split
    · have zero : Representable 0 := ⟨by decide +kernel, by decide⟩
      rw [ofUnits_exact _ zero, ofUnits_exact _ zero]
      simp [Same, signedUnits]
    · exact same_refl _

/-- A step along an axis is as long as its component. -/
theorem length_down {across down : Binary64} {units : Nat} (level : across.IsAmount 0)
    (amount : down.IsAmount units) :
    ∃ representable, length across down = .finite false units representable := by
  obtain ⟨_, _, rfl, -⟩ := level.shape
  obtain ⟨_, representable, rfl, -⟩ := amount.shape
  exact ⟨representable, by rw [length, if_pos rfl]⟩

theorem length_across {across down : Binary64} {units : Nat} (amount : across.IsAmount units)
    (level : down.IsAmount 0) :
    ∃ representable, length across down = .finite false units representable := by
  obtain ⟨_, representable, rfl, -⟩ := amount.shape
  obtain ⟨_, zero, rfl, -⟩ := level.shape
  refine ⟨representable, ?_⟩
  by_cases none : units = 0
  · subst none
    rw [length, if_pos rfl]
  · rw [length, if_neg none, if_pos rfl]

/-- The direction of a step, taken no times, is a zero. -/
theorem IsAmount.direction_zero {component : Binary64} {units total : Nat}
    (amount : component.IsAmount units) (order : units ≤ total) (positive : 0 < total)
    (representable : Representable total) :
    ∃ negative zero, component / .finite false total representable * 0 =
      .finite negative 0 zero := by
  have below : roundedQuotient (units * unitsPerOne) total < overflowUnits := by
    obtain ⟨fits, -⟩ := one_finite
    calc
      roundedQuotient (units * unitsPerOne) total ≤ unitsPerOne :=
        roundedQuotient_le positive fits.2
          (by rw [Nat.mul_comm unitsPerOne]; exact Nat.mul_le_mul_right _ order)
      _ < overflowUnits := fits.1
  obtain ⟨negative, fits, rfl, -⟩ := amount.shape
  obtain ⟨zeroFits, zero⟩ := zero_finite
  have quotient : .finite negative units fits / .finite false total representable =
      ofUnits (negative != false) (units * unitsPerOne) total :=
    if_neg (Nat.ne_of_gt positive)
  rw [quotient, zero, ofUnits, dif_pos below]
  change ∃ other zero, ofUnits _ (_ * 0) unitsPerOne = .finite other 0 zero
  refine ⟨_, zeroFits, ofUnits_eq _ _ _ _ _ ?_⟩
  simp [roundedQuotient, nearestEven]

end Binary64

end QuadrantChart
