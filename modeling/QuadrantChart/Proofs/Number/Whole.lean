/-
This file computes with whole numbers, on which floating point arithmetic is exact up to `2 ^ 53`.
-/

import QuadrantChart.Proofs.Number.Order
import QuadrantChart.Proofs.Number.Scale

namespace QuadrantChart

namespace Binary64

variable {value left right : Binary64} {units first second count : Nat}

/-- At most 53 bits, shifted to the left, are representable below the overflow. -/
theorem representable_shifted {significand shift : Nat} (small : significand ≤ 2 ^ 53)
    (room : shift ≤ 2044) : Representable (significand * 2 ^ shift) := by
  refine ⟨?_, scaled_dvd significand shift small⟩
  obtain ⟨overflow, exponent, power⟩ := overflowUnits_eq
  calc
    significand * 2 ^ shift ≤ 2 ^ 53 * 2 ^ shift := Nat.mul_le_mul_right _ small
    _ = 2 ^ (53 + shift) := (Nat.pow_add _ _ _).symm
    _ < 2 ^ overflow := Nat.pow_lt_pow_right (by decide) (by omega)
    _ = overflowUnits := power.symm

theorem representable_ones (small : count ≤ 2 ^ 53) : Representable (count * unitsPerOne) := by
  obtain ⟨places, exponent, power⟩ := unitsPerOne_eq
  rw [power]
  exact representable_shifted small (by omega)

theorem representable_halves (small : count ≤ 2 ^ 53) :
    Representable (count * roundedQuotient unitsPerOne 2) := by
  obtain ⟨places, exponent, power⟩ := unitsPerOne_eq
  obtain ⟨lower, rfl⟩ : ∃ lower, places = lower + 1 := ⟨1073, exponent⟩
  have half : roundedQuotient unitsPerOne 2 = 2 ^ lower := by
    have twice := half_one
    generalize roundedQuotient unitsPerOne 2 = half at twice
    omega
  rw [half]
  exact representable_shifted small (by omega)

theorem ofNat_finite (small : count ≤ 2 ^ 53) :
    ∃ representable, ofNat count = .finite false (count * unitsPerOne) representable :=
  ⟨representable_ones small, ofUnits_exact false (representable_ones small)⟩

theorem ofNat_amount (small : count ≤ 2 ^ 53) : (ofNat count).IsAmount (count * unitsPerOne) := by
  obtain ⟨representable, finite⟩ := ofNat_finite small
  exact ⟨false, _, representable, finite, rfl⟩

theorem ofNat_lt (firstSmall : first ≤ 2 ^ 53) (secondSmall : second ≤ 2 ^ 53) :
    (ofNat first).lt (ofNat second) = true ↔ first < second := by
  rw [(ofNat_amount firstSmall).lt_iff (ofNat_amount secondSmall)]
  exact Nat.mul_lt_mul_right unitsPerOne_positive

theorem ofNat_min (firstSmall : first ≤ 2 ^ 53) (secondSmall : second ≤ 2 ^ 53) :
    (ofNat first).min (ofNat second) = ofNat (Min.min first second) := by
  rw [Binary64.min]
  split_ifs with below <;> rw [ofNat_lt secondSmall firstSmall] at below <;> congr 1 <;> omega

/-- A count of halves is exact as well. -/
theorem roundedQuotient_halves (small : count ≤ 2 ^ 53) :
    roundedQuotient (count * unitsPerOne) 2 = count * roundedQuotient unitsPerOne 2 := by
  have whole : count * unitsPerOne = count * roundedQuotient unitsPerOne 2 * 2 := by
    rw [Nat.mul_assoc, Nat.mul_comm _ 2, half_one]
  rw [whole]
  exact roundedQuotient_exact _ 2 (by decide) (representable_halves small).2

theorem ofQuotient_halves (small : count ≤ 2 ^ 53) :
    ofQuotient false count 2 =
      .finite false (count * roundedQuotient unitsPerOne 2) (representable_halves small) :=
  ofUnits_eq _ _ _ _ _ (roundedQuotient_halves small)

theorem halves_amount (small : count ≤ 2 ^ 53) :
    (ofQuotient false count 2).IsAmount (count * roundedQuotient unitsPerOne 2) :=
  ⟨false, _, _, ofQuotient_halves small, rfl⟩

/-- Only zero has a second number of the same value. -/
theorem IsAmount.eq_finite (amount : value.IsAmount units) (positive : 0 < units) :
    value = .finite false units amount.representable := by
  obtain ⟨negative, fits, rfl, sign⟩ := amount.shape
  cases negative with
  | false => rfl
  | true => exact absurd (sign rfl) (by omega)

theorem IsAmount.eq_ofNat (amount : value.IsAmount (count * unitsPerOne)) (positive : 0 < count)
    (small : count ≤ 2 ^ 53) : value = ofNat count := by
  obtain ⟨representable, finite⟩ := ofNat_finite small
  rw [finite]
  exact amount.eq_finite (Nat.mul_pos positive unitsPerOne_positive)

theorem ofNat_eq_zero (small : count ≤ 2 ^ 53) : (ofNat count).eq 0 = true ↔ count = 0 := by
  have amount := ofNat_amount small
  have zero : (0 : Binary64).IsAmount (0 * unitsPerOne) := ofNat_amount (Nat.zero_le _)
  have positive := unitsPerOne_positive
  rw [eq, Bool.and_eq_true, amount.le_iff zero, zero.le_iff amount, Nat.zero_mul, Nat.le_zero,
    Nat.mul_eq_zero]
  omega

theorem ofSignedUnits_natCast (sum : Nat) : ofSignedUnits false sum = ofUnits false sum 1 := by
  rw [ofSignedUnits]
  split_ifs with zero
  · rw [Int.natCast_eq_zero.1 zero]
  · have notBelow : ¬(sum : Int) < 0 := by omega
    simp [notBelow]

/-- A whole number is added to a number of either zero. -/
theorem IsAmount.add_ofNat (amount : value.IsAmount (first * unitsPerOne))
    (small : second ≤ 2 ^ 53) : value + ofNat second = ofNat (first + second) := by
  obtain ⟨negative, magnitude, fits, rfl, signed⟩ := amount
  obtain ⟨representable, finite⟩ := ofNat_finite small
  rw [finite]
  change ofSignedUnits (negative && false)
    (signedUnits negative magnitude + signedUnits false (second * unitsPerOne)) = _
  have sum : signedUnits negative magnitude + signedUnits false (second * unitsPerOne) =
      ((first + second) * unitsPerOne : Nat) := by
    rw [signed, Nat.add_mul, Int.natCast_add]
    rfl
  rw [Bool.and_false, sum, ofSignedUnits_natCast]
  rfl

theorem ofNat_add (firstSmall : first ≤ 2 ^ 53) (secondSmall : second ≤ 2 ^ 53) :
    ofNat first + ofNat second = ofNat (first + second) :=
  (ofNat_amount firstSmall).add_ofNat secondSmall

/-- Either zero leaves a number as it is that is not a negative zero. -/
theorem IsAmount.add_level {shift : Binary64} (level : shift.IsAmount 0)
    (representable : Representable units) :
    .finite false units representable + shift = .finite false units representable := by
  obtain ⟨negative, fits, rfl, -⟩ := level.shape
  change ofSignedUnits (false && negative) (signedUnits false units + signedUnits negative 0) = _
  have sum : signedUnits false units + signedUnits negative 0 = units := by
    cases negative <;> simp [signedUnits]
  rw [Bool.false_and, sum, ofSignedUnits_natCast, ofUnits_exact]

theorem ofNat_div_self (small : count ≤ 2 ^ 53) (positive : 0 < count) :
    ofNat count / ofNat count = 1 := by
  obtain ⟨representable, finite⟩ := ofNat_finite small
  obtain ⟨oneFits, one⟩ := one_finite
  have units := Nat.mul_pos positive unitsPerOne_positive
  have quotient : .finite false (count * unitsPerOne) representable /
      .finite false (count * unitsPerOne) representable =
      ofUnits (false != false) (count * unitsPerOne * unitsPerOne) (count * unitsPerOne) :=
    if_neg (by omega)
  rw [finite, quotient, one]
  refine ofUnits_eq _ _ _ _ oneFits ?_
  rw [Nat.mul_comm]
  exact roundedQuotient_exact unitsPerOne _ units oneFits.2

theorem IsAmount.div_level (level : value.IsAmount 0) (small : count ≤ 2 ^ 53)
    (positive : 0 < count) : (value / ofNat count).IsAmount 0 := by
  obtain ⟨representable, finite⟩ := ofNat_finite small
  obtain ⟨negative, fits, rfl, -⟩ := level.shape
  have units := Nat.mul_pos positive unitsPerOne_positive
  have quotient : .finite negative 0 fits / .finite false (count * unitsPerOne) representable =
      ofUnits (negative != false) (0 * unitsPerOne) (count * unitsPerOne) := if_neg (by omega)
  have none : roundedQuotient (0 * unitsPerOne) (count * unitsPerOne) = 0 :=
    roundedQuotient_small _ _ (by omega)
  have amount : (ofUnits (negative != false) (0 * unitsPerOne) (count * unitsPerOne)).IsAmount
      (roundedQuotient (0 * unitsPerOne) (count * unitsPerOne)) :=
    ofUnits_amount (fun _ => Nat.zero_mul _) (by rw [none]; exact fits.1)
  rwa [none, ← quotient, ← finite] at amount

theorem IsAmount.mul_level {factor : Binary64} (level : value.IsAmount 0)
    (amount : factor.IsAmount units) : (value * factor).IsAmount 0 := by
  have scaled := level.scaled (Nat.zero_le _) amount
  rwa [scaledUnits_zero] at scaled

theorem IsAmount.add_exact {otherUnits : Nat} (leftAmount : left.IsAmount units)
    (rightAmount : right.IsAmount otherUnits) (representable : Representable (units + otherUnits)) :
    (left + right).IsAmount (units + otherUnits) := by
  have rounded := roundedQuotient_one representable
  have sum := leftAmount.add_amount rightAmount (by rw [rounded]; exact representable.1)
  rwa [rounded] at sum

/-- A step along an axis is as long as its component. -/
theorem IsAmount.length_down (level : value.IsAmount 0) (small : count ≤ 2 ^ 53) :
    length value (ofNat count) = ofNat count := by
  obtain ⟨_, finite⟩ := ofNat_finite small
  obtain ⟨_, measured⟩ := Binary64.length_down level (ofNat_amount small)
  rw [measured, finite]

theorem IsAmount.length_across (level : value.IsAmount 0) (small : count ≤ 2 ^ 53) :
    length (ofNat count) value = ofNat count := by
  obtain ⟨_, finite⟩ := ofNat_finite small
  obtain ⟨_, measured⟩ := Binary64.length_across (ofNat_amount small) level
  rw [measured, finite]

/-- The product of an amount and a whole number is rounded once. -/
theorem IsAmount.mul (leftAmount : left.IsAmount units)
    (rightAmount : right.IsAmount (count * unitsPerOne)) :
    ∃ negative, left * right = ofUnits negative (units * count) 1 ∧
      (negative = true → units * count = 0) := by
  obtain ⟨leftNegative, leftFits, rfl, leftSign⟩ := leftAmount.shape
  obtain ⟨rightNegative, rightFits, rfl, rightSign⟩ := rightAmount.shape
  have positive := unitsPerOne_positive
  refine ⟨leftNegative != rightNegative, ?_, fun negative => ?_⟩
  · change ofUnits _ (units * (count * unitsPerOne)) unitsPerOne = _
    have scaled := roundedQuotient_scale (units * count) 1 unitsPerOne positive
    rw [Nat.one_mul, Nat.mul_assoc] at scaled
    unfold ofUnits
    simp only [scaled]
  · cases leftNegative with
    | true => rw [leftSign rfl, Nat.zero_mul]
    | false =>
      cases rightNegative with
      | false => cases negative
      | true =>
        have none := (Nat.mul_eq_zero.1 (rightSign rfl)).resolve_right (by omega)
        rw [none, Nat.mul_zero]

theorem IsAmount.mul_exact (leftAmount : left.IsAmount units)
    (rightAmount : right.IsAmount (count * unitsPerOne))
    (representable : Representable (units * count)) : (left * right).IsAmount (units * count) := by
  obtain ⟨negative, product, sign⟩ := leftAmount.mul rightAmount
  have rounded := roundedQuotient_one representable
  rw [product]
  have amount := ofUnits_amount sign (by rw [rounded]; exact representable.1)
  rwa [rounded] at amount

end Binary64

namespace Number

open Binary64 (unitsPerOne)

/-- A number with the value of a natural number, as an integer or as a floating point number. -/
def IsWhole (number : Number) (count : Nat) : Prop :=
  number.IsAmount (count * unitsPerOne)

variable {number left right : Number} {count first second : Nat}

theorem isWhole_integer {value : Int} : (Number.integer value).IsWhole count ↔ value = count := by
  have positive := Binary64.unitsPerOne_positive
  change value * unitsPerOne = ((count * unitsPerOne : Nat) : Int) ↔ _
  rw [Int.natCast_mul]
  exact Int.mul_eq_mul_right_iff (by omega)

theorem IsWhole.toDouble (whole : number.IsWhole count) (small : count ≤ 2 ^ 53) :
    ∃ value, number.toDouble = .ok value ∧ value.IsAmount (count * unitsPerOne) := by
  have representable := Binary64.representable_ones small
  have rounded := Binary64.roundedQuotient_one representable
  have converted := IsAmount.converts whole (by rw [rounded]; exact representable.1)
  rwa [rounded] at converted

theorem IsWhole.toDouble_positive (whole : number.IsWhole count) (positive : 0 < count)
    (small : count ≤ 2 ^ 53) : number.toDouble = .ok (Binary64.ofNat count) := by
  obtain ⟨value, converts, amount⟩ := whole.toDouble small
  rw [converts, amount.eq_ofNat positive small]

theorem IsWhole.within (whole : number.IsWhole count) : number.Within count := by
  rintro value rfl
  rw [isWhole_integer.1 whole]
  exact Nat.le_of_eq (Int.natAbs_natCast count)

theorem IsWhole.isFinite (whole : number.IsWhole count) (small : count ≤ 2 ^ 53) :
    number.isFinite = .ok true := by
  obtain ⟨value, converts, amount⟩ := whole.toDouble small
  exact isFinite_ok.2 ⟨value, converts, amount.isFinite⟩

theorem zero_whole : (0 : Number).IsWhole 0 :=
  isWhole_integer.2 rfl

theorem IsWhole.le_iff (firstWhole : left.IsWhole first) (secondWhole : right.IsWhole second) :
    left.le right = true ↔ first ≤ second := by
  rw [IsAmount.le_iff firstWhole secondWhole]
  exact Nat.mul_le_mul_right_iff Binary64.unitsPerOne_positive

theorem IsWhole.lt_iff (firstWhole : left.IsWhole first) (secondWhole : right.IsWhole second) :
    left.lt right = true ↔ first < second := by
  rw [IsAmount.lt_iff firstWhole secondWhole]
  exact Nat.mul_lt_mul_right Binary64.unitsPerOne_positive

/-- An operation that is exact on the floating point numbers of two whole numbers is exact. -/
theorem IsWhole.combine {exact : Int → Int → Int} {rounded : Binary64 → Binary64 → Binary64}
    (leftWhole : left.IsWhole first) (rightWhole : right.IsWhole second)
    (leftSmall : first ≤ 2 ^ 53) (rightSmall : second ≤ 2 ^ 53)
    (integers : exact first second = count)
    (doubles : ∀ {leftValue rightValue : Binary64}, leftValue.IsAmount (first * unitsPerOne) →
      rightValue.IsAmount (second * unitsPerOne) →
      (rounded leftValue rightValue).IsAmount (count * unitsPerOne)) :
    ∃ result, Number.combine exact rounded left right = .ok result ∧ result.IsWhole count := by
  obtain ⟨leftValue, leftDouble, leftAmount⟩ := leftWhole.toDouble leftSmall
  obtain ⟨rightValue, rightDouble, rightAmount⟩ := rightWhole.toDouble rightSmall
  cases left with
  | double value =>
    exact ⟨_, combine_left_ok.2 ⟨_, rightDouble, rfl⟩, doubles leftWhole rightAmount⟩
  | integer leftInteger =>
    cases right with
    | double value =>
      exact ⟨_, combine_right_ok.2 ⟨_, leftDouble, rfl⟩, doubles leftAmount rightWhole⟩
    | integer rightInteger =>
      obtain rfl := isWhole_integer.1 leftWhole
      obtain rfl := isWhole_integer.1 rightWhole
      exact ⟨_, rfl, isWhole_integer.2 integers⟩

theorem IsWhole.add (leftWhole : left.IsWhole first) (rightWhole : right.IsWhole second)
    (small : first + second ≤ 2 ^ 53) :
    ∃ sum, left.add right = .ok sum ∧ sum.IsWhole (first + second) := by
  refine leftWhole.combine rightWhole (by omega) (by omega) (Int.natCast_add _ _).symm ?_
  intro leftValue rightValue leftAmount rightAmount
  have representable := Binary64.representable_ones small
  rw [Nat.add_mul] at representable ⊢
  exact leftAmount.add_exact rightAmount representable

theorem IsWhole.sub (leftWhole : left.IsWhole first) (rightWhole : right.IsWhole second)
    (small : first ≤ 2 ^ 53) (order : second ≤ first) :
    ∃ difference, left.sub right = .ok difference ∧ difference.IsWhole (first - second) := by
  refine leftWhole.combine rightWhole small (by omega) (Int.ofNat_sub order).symm ?_
  intro leftValue rightValue leftAmount rightAmount
  have representable := Binary64.representable_ones (by omega : first - second ≤ 2 ^ 53)
  have difference := leftAmount.sub rightAmount (Nat.mul_le_mul_right _ order)
  rw [← Nat.sub_mul, Binary64.roundedQuotient_one representable] at difference
  exact difference

theorem IsWhole.mul (leftWhole : left.IsWhole first) (rightWhole : right.IsWhole second)
    (leftSmall : first ≤ 2 ^ 53) (rightSmall : second ≤ 2 ^ 53)
    (small : first * second ≤ 2 ^ 53) :
    ∃ product, left.mul right = .ok product ∧ product.IsWhole (first * second) := by
  refine leftWhole.combine rightWhole leftSmall rightSmall (Int.natCast_mul _ _).symm ?_
  intro leftValue rightValue leftAmount rightAmount
  have representable := Binary64.representable_ones small
  rw [Nat.mul_right_comm] at representable ⊢
  exact leftAmount.mul_exact rightAmount representable

/-- A whole number and a floating point one add up to a floating point one that is no negative
zero. -/
theorem IsWhole.add_ofNat (whole : number.IsWhole first) (firstSmall : first ≤ 2 ^ 53)
    (secondSmall : second ≤ 2 ^ 53) :
    number.add (.double (Binary64.ofNat second)) =
      .ok (.double (Binary64.ofNat (first + second))) := by
  obtain ⟨value, converts, amount⟩ := whole.toDouble firstSmall
  refine combine_right_ok.2 ⟨value, converts, ?_⟩
  exact congrArg Number.double (amount.add_ofNat secondSmall)

theorem IsWhole.round (whole : number.IsWhole count) : number.round = .ok count := by
  cases number with
  | integer value =>
    rw [isWhole_integer.1 whole]
    rfl
  | double value =>
    obtain ⟨negative, magnitude, fits, rfl, signed⟩ := whole
    obtain ⟨rfl, sign⟩ := Binary64.signedUnits_cases signed
    have nearest := Binary64.nearestEven_mul count _ Binary64.unitsPerOne_positive
    change Except.ok (Binary64.signedUnits negative (Binary64.nearestEven _ _)) = _
    rw [nearest]
    cases negative with
    | false => rfl
    | true =>
      have positive := Binary64.unitsPerOne_positive
      have none := (Nat.mul_eq_zero.1 (sign rfl)).resolve_right (by omega)
      rw [none]
      rfl

/-- The products of small whole numbers are finite. -/
theorem IsWhole.scalesBy {value scale : Binary64} (whole : (Number.double value).IsWhole first)
    (scaleWhole : (Number.double scale).IsWhole second) (small : first * second ≤ finiteLimit) :
    (Number.double value).ScalesBy (.double scale) := by
  obtain ⟨negative, product, -⟩ := Binary64.IsAmount.mul whole scaleWhole
  have finite := ofQuotient_finite negative small (by decide : 0 < 1)
  rw [Binary64.ofQuotient, Nat.mul_right_comm, ← product] at finite
  exact scalesBy_double.2 ⟨value, rfl, finite⟩

theorem IsWhole.sizeAt {scale : Number} (whole : number.IsWhole first)
    (scaleWhole : scale.IsWhole second) (firstSmall : first ≤ 2 ^ 53)
    (secondSmall : second ≤ 2 ^ 53) (small : first * second ≤ 2 ^ 53)
    (positive : 0 < first * second) :
    number.sizeAt scale = .ok (first * second : Nat) := by
  obtain ⟨product, scaled, productWhole⟩ := whole.mul scaleWhole firstSmall secondSmall small
  have atLeast : max 1 ((first * second : Nat) : Int) = (first * second : Nat) := by omega
  simp only [Number.sizeAt, scaled, productWhole.round, bind, Except.bind, pure, Except.pure,
    atLeast]

end Number

end QuadrantChart
