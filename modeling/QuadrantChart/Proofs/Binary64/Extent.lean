/-
This file computes with numbers from zero to infinity, as counts of units, and says for which steps
such numbers advance and for which they stay where they are.
-/

import QuadrantChart.Proofs.Binary64.Nearest
import QuadrantChart.Proofs.Number.Order

namespace QuadrantChart

namespace Binary64

/-- Behind an even multiple, half a denominator is rounded down. -/
theorem nearestEven_down {quotient rest denominator : Nat} (positive : 0 < denominator)
    (even : quotient % 2 = 0) (half : 2 * rest ≤ denominator) :
    nearestEven (denominator * quotient + rest) denominator = quotient := by
  have divided : (denominator * quotient + rest) / denominator = quotient := by
    rw [Nat.mul_add_div positive, Nat.div_eq_of_lt (by omega), Nat.add_zero]
  have remainder : (denominator * quotient + rest) % denominator = rest := by
    rw [Nat.mul_add_mod, Nat.mod_eq_of_lt (by omega)]
  simp only [nearestEven, divided, remainder]
  split_ifs <;> omega

/-- Powers of two are kept. -/
theorem roundedQuotient_two_pow (exponent : Nat) {denominator : Nat} (positive : 0 < denominator) :
    roundedQuotient (2 ^ exponent * denominator) denominator = 2 ^ exponent :=
  roundedQuotient_exact _ denominator positive
    (by rw [Nat.log2_two_pow]; exact Nat.pow_dvd_pow 2 (Nat.sub_le _ _))

section Step

variable {units step exponent : Nat}

/-- Behind a power of two, a step of at most half the distance of the next number is lost. -/
theorem roundedQuotient_absorbs (small : step ≤ 2 ^ exponent) :
    roundedQuotient (2 ^ (53 + exponent) + step) 1 = 2 ^ (53 + exponent) := by
  have positive := Nat.two_pow_pos exponent
  have double : (2 : Nat) ^ (exponent + 1) = 2 ^ exponent * 2 := Nat.pow_succ 2 exponent
  have next : (2 : Nat) ^ (53 + exponent + 1) = 2 ^ (53 + exponent) * 2 := Nat.pow_succ 2 _
  have split : (2 : Nat) ^ (53 + exponent) = 2 ^ (exponent + 1) * 2 ^ 52 := by
    rw [← Nat.pow_add]
    congr 1
    omega
  have leading : (2 ^ (53 + exponent) + step).log2 = 53 + exponent :=
    (Nat.log2_eq_iff (by omega)).2 ⟨Nat.le_add_right _ _, by omega⟩
  have shift : 53 + exponent - 52 = exponent + 1 := by omega
  simp only [roundedQuotient, Nat.div_one, leading, shift, pow_eq, Nat.one_mul]
  rw [split, nearestEven_down (Nat.two_pow_pos _) (by decide) (by omega), Nat.mul_comm]

/-- A step of more than half the distance between numbers leads from any number to a greater one. -/
theorem roundedQuotient_advances (below : units < 2 ^ (53 + exponent))
    (enough : 2 ^ exponent < 2 * step) : units < roundedQuotient (units + step) 1 := by
  by_cases far : 53 + exponent ≤ (units + step).log2
  · have reached : 2 ^ (53 + exponent) ≤ (units + step) / 1 := by
      have positive := Nat.two_pow_pos exponent
      rw [Nat.div_one]
      exact (Nat.le_log2 (by omega)).1 far
    exact Nat.lt_of_lt_of_le below (two_pow_le_roundedQuotient _ _ _ reached)
  · have grid : 2 ^ ((units + step).log2 - 52) ≤ 2 ^ exponent :=
      Nat.pow_le_pow_right (by decide) (by omega)
    obtain ⟨-, near⟩ := nearestEven_close (units + step)
      (Nat.two_pow_pos ((units + step).log2 - 52))
    simp only [roundedQuotient, Nat.div_one, pow_eq, Nat.one_mul]
    omega

end Step

/-- A count of units after rounding, which ends at the overflow. -/
def cappedUnits (units : Nat) : Nat :=
  Min.min (roundedQuotient units 1) overflowUnits

/-- A number from zero to infinity. Infinity counts as the overflow. -/
def IsExtent (value : Binary64) (units : Nat) : Prop :=
  (value = .infinite false ∧ units = overflowUnits) ∨ value.IsAmount units

variable {first second value : Binary64} {units otherUnits : Nat}

theorem cappedUnits_mono (order : units ≤ otherUnits) :
    cappedUnits units ≤ cappedUnits otherUnits := by
  have rounded := roundedQuotient_mono 1 order
  simp only [cappedUnits]
  omega

theorem cappedUnits_le : cappedUnits units ≤ roundedQuotient units 1 :=
  Nat.min_le_left _ _

theorem IsAmount.isExtent (amount : value.IsAmount units) : value.IsExtent units :=
  .inr amount

theorem IsRounding.isExtent (rounding : value.IsRounding units) :
    value.IsExtent (cappedUnits units) := by
  rcases rounding.cases with ⟨infinite, beyond⟩ | amount
  · exact .inl ⟨infinite, Nat.min_eq_right beyond⟩
  · have capped : cappedUnits units = roundedQuotient units 1 :=
      Nat.min_eq_left (Nat.le_of_lt amount.representable.1)
    rw [capped]
    exact .inr amount

theorem IsExtent.bounded (extent : value.IsExtent units) : units ≤ overflowUnits := by
  rcases extent with ⟨-, rfl⟩ | amount
  · exact Nat.le_refl _
  · exact Nat.le_of_lt amount.representable.1

/-- Rounding keeps what a number counts. -/
theorem IsExtent.rounded (extent : value.IsExtent units) : roundedQuotient units 1 = units := by
  rcases extent with ⟨-, rfl⟩ | amount
  · obtain ⟨places, -, power⟩ := overflowUnits_eq
    have kept := roundedQuotient_two_pow places Nat.one_pos
    rwa [Nat.mul_one, ← power] at kept
  · exact amount.rounded

theorem IsExtent.lt_iff (firstExtent : first.IsExtent units)
    (secondExtent : second.IsExtent otherUnits) : first.lt second = true ↔ units < otherUnits := by
  rcases firstExtent with ⟨rfl, rfl⟩ | amount
  · have bounded := secondExtent.bounded
    rcases secondExtent with ⟨rfl, rfl⟩ | otherAmount
    · simp [lt]
    · obtain ⟨_, _, rfl, -⟩ := otherAmount.shape
      simp [lt]
      omega
  · rcases secondExtent with ⟨rfl, rfl⟩ | otherAmount
    · have below := amount.representable.1
      obtain ⟨_, _, rfl, -⟩ := amount.shape
      simp [lt, below]
    · exact amount.lt_iff otherAmount

theorem IsExtent.isNan (extent : value.IsExtent units) : value.isNan = false := by
  rcases extent with ⟨rfl, -⟩ | amount
  · rfl
  · exact amount.isNan

theorem IsExtent.le_iff (firstExtent : first.IsExtent units)
    (secondExtent : second.IsExtent otherUnits) : first.le second = true ↔ units ≤ otherUnits := by
  have order := secondExtent.lt_iff firstExtent
  rw [le, firstExtent.isNan, secondExtent.isNan]
  cases before : second.lt first <;> simp_all

/-- A number counts no more than a greater count of units does after rounding. -/
theorem IsExtent.le_cappedUnits (extent : value.IsExtent units) (order : units ≤ otherUnits) :
    units ≤ cappedUnits otherUnits := by
  refine Nat.le_min.2 ⟨?_, extent.bounded⟩
  calc
    units = roundedQuotient units 1 := extent.rounded.symm
    _ ≤ roundedQuotient otherUnits 1 := roundedQuotient_mono 1 order

theorem IsExtent.min (firstExtent : first.IsExtent units)
    (secondExtent : second.IsExtent otherUnits) :
    (first.min second).IsExtent (Min.min units otherUnits) := by
  have order := secondExtent.lt_iff firstExtent
  unfold Binary64.min
  split_ifs with less
  · rw [Nat.min_eq_right (Nat.le_of_lt (order.1 less))]
    exact secondExtent
  · rw [Nat.min_eq_left (Nat.le_of_not_lt (mt order.2 less))]
    exact firstExtent

theorem infinite_isExtent : (infinite false).IsExtent overflowUnits :=
  .inl ⟨rfl, rfl⟩

/-- What reaches the overflow stays infinite. -/
theorem cappedUnits_beyond (beyond : overflowUnits ≤ units) :
    cappedUnits units = overflowUnits := by
  refine Nat.min_eq_right ?_
  calc
    overflowUnits = roundedQuotient overflowUnits 1 := infinite_isExtent.rounded.symm
    _ ≤ roundedQuotient units 1 := roundedQuotient_mono 1 beyond

theorem IsExtent.add (firstExtent : first.IsExtent units)
    (secondExtent : second.IsExtent otherUnits) :
    (first + second).IsExtent (cappedUnits (units + otherUnits)) := by
  rcases firstExtent with ⟨rfl, rfl⟩ | amount
  · rw [cappedUnits_beyond (Nat.le_add_right _ _)]
    rcases secondExtent with ⟨rfl, -⟩ | otherAmount
    · exact infinite_isExtent
    · obtain ⟨_, _, rfl, -⟩ := otherAmount.shape
      exact infinite_isExtent
  · rcases secondExtent with ⟨rfl, rfl⟩ | otherAmount
    · rw [cappedUnits_beyond (Nat.le_add_left _ _)]
      obtain ⟨_, _, rfl, -⟩ := amount.shape
      exact infinite_isExtent
    · exact IsRounding.isExtent (amount.add otherAmount)

/-- What a number from zero to infinity counts, and nothing for any other number. -/
def extent : Binary64 → Nat
  | .finite false units _ => units
  | .infinite false => overflowUnits
  | _ => 0

/-- A number that is not above zero has no extent. -/
theorem extent_cases (value : Binary64) :
    value.IsExtent value.extent ∨ (Binary64.lt 0 value = false ∧ value.extent = 0) := by
  obtain ⟨zeroFits, zero⟩ := zero_finite
  rw [zero]
  cases value with
  | nan => exact .inr ⟨rfl, rfl⟩
  | infinite negative =>
    cases negative with
    | false => exact .inl infinite_isExtent
    | true => exact .inr ⟨rfl, rfl⟩
  | finite negative units representable =>
    cases negative with
    | false => exact .inl (.inr ⟨false, units, representable, rfl, rfl⟩)
    | true =>
      refine .inr ⟨?_, rfl⟩
      simp [lt, signedUnits]

theorem IsExtent.extent_eq {value : Binary64} {units : Nat} (isExtent : value.IsExtent units) :
    value.extent = units := by
  rcases isExtent with ⟨rfl, rfl⟩ | amount
  · rfl
  · obtain ⟨negative, representable, rfl, zero⟩ := amount.shape
    cases negative with
    | false => rfl
    | true => exact (zero rfl).symm

theorem zero_isExtent : (0 : Binary64).IsExtent 0 := by
  obtain ⟨zeroFits, zero⟩ := zero_finite
  exact .inr ⟨false, 0, zeroFits, zero, rfl⟩

section Arithmetic

variable {left right : Binary64} {bound : Nat}

/-- What a number counts without its sign. -/
def absoluteUnits : Binary64 → Nat
  | .finite _ units _ => units
  | .infinite _ => overflowUnits
  | .nan => 0

theorem ofUnits_absoluteUnits (negative : Bool) (numerator denominator : Nat) :
    (ofUnits negative numerator denominator).absoluteUnits ≤
      roundedQuotient numerator denominator := by
  unfold ofUnits
  split_ifs with below
  · exact Nat.le_refl _
  · exact Nat.le_of_not_lt below

/-- The difference of two numbers from zero on is no greater than both of them. -/
theorem IsExtent.sub_absoluteUnits (leftExtent : left.IsExtent units)
    (rightExtent : right.IsExtent otherUnits) (leftBound : units ≤ bound)
    (rightBound : otherUnits ≤ bound) (rounded : roundedQuotient bound 1 = bound) :
    (left - right).absoluteUnits ≤ bound := by
  rcases leftExtent with ⟨rfl, rfl⟩ | ⟨leftNegative, leftUnits, leftFits, rfl, leftSigned⟩
  · rcases rightExtent with ⟨rfl, rfl⟩ | ⟨rightNegative, rightUnits, rightFits, rfl, -⟩
    · exact Nat.zero_le _
    · exact leftBound
  · rcases rightExtent with ⟨rfl, rfl⟩ | ⟨rightNegative, rightUnits, rightFits, rfl, rightSigned⟩
    · exact rightBound
    · change (ofSignedUnits _ (signedUnits leftNegative leftUnits +
        signedUnits (!rightNegative) rightUnits)).absoluteUnits ≤ bound
      rw [signedUnits_not, leftSigned, rightSigned, ← rounded]
      unfold ofSignedUnits
      split_ifs
      · exact Nat.le_trans (ofUnits_absoluteUnits ..) (roundedQuotient_mono 1 (Nat.zero_le _))
      · exact Nat.le_trans (ofUnits_absoluteUnits ..) (roundedQuotient_mono 1 (by omega))

theorem ofUnits_isExtent {negative : Bool} {numerator denominator : Nat}
    (positive : 0 < denominator) (sign : negative = true → numerator = 0) :
    ∃ units ≤ roundedQuotient numerator denominator,
      (ofUnits negative numerator denominator).IsExtent units := by
  by_cases below : roundedQuotient numerator denominator < overflowUnits
  · exact ⟨_, Nat.le_refl _, (ofUnits_amount sign below).isExtent⟩
  · refine ⟨overflowUnits, Nat.le_of_not_lt below, ?_⟩
    cases negative with
    | false =>
      rw [ofUnits, dif_neg below]
      exact infinite_isExtent
    | true =>
      rw [sign rfl, roundedQuotient_small 0 denominator positive] at below
      exact absurd (by decide +kernel) below

/-- The product of two amounts is rounded once, which can make it infinite. -/
theorem IsAmount.mul_isExtent (leftAmount : left.IsAmount units)
    (rightAmount : right.IsAmount otherUnits) :
    ∃ product ≤ scaledUnits units otherUnits, (left * right).IsExtent product := by
  obtain ⟨leftNegative, leftFits, rfl, leftSign⟩ := leftAmount.shape
  obtain ⟨rightNegative, rightFits, rfl, rightSign⟩ := rightAmount.shape
  refine ofUnits_isExtent unitsPerOne_positive fun negative => ?_
  cases leftNegative with
  | true => rw [leftSign rfl, Nat.zero_mul]
  | false => rw [rightSign (by simpa using negative), Nat.mul_zero]

theorem finite_of_mul (finite : (left * right).isFinite = true) : right.isFinite = true := by
  change (mul left right).isFinite = true at finite
  cases right with
  | finite negative units representable => rfl
  | nan => cases left <;> cases finite
  | infinite negative =>
    cases left with
    | finite leftNegative leftUnits fits =>
      simp only [mul] at finite
      split_ifs at finite <;> cases finite
    | _ => cases finite

/-- A number less itself is nothing, unless there is no difference. -/
theorem sub_self_level (value : Binary64) : value - value = .nan ∨ (value - value).IsAmount 0 := by
  cases value with
  | nan => exact .inl rfl
  | infinite negative => cases negative <;> exact .inl rfl
  | finite negative units representable =>
    obtain ⟨zeroFits, -⟩ := zero_finite
    change _ ∨ (ofSignedUnits (negative && !negative) (signedUnits negative units +
      signedUnits (!negative) units)).IsAmount 0
    rw [signedUnits_not, Int.add_right_neg, Bool.and_not_self, ofSignedUnits, if_pos rfl,
      ofUnits_exact false zeroFits]
    exact .inr ⟨false, 0, zeroFits, rfl, rfl⟩

theorem length_down_extent {across : Binary64} (level : across = .nan ∨ across.IsAmount 0)
    (down : Binary64) : (length across down).extent ≤ down.absoluteUnits := by
  rcases level with rfl | amount
  · cases down with
    | infinite negative => exact Nat.le_refl _
    | _ => exact Nat.zero_le _
  · obtain ⟨_, _, rfl, -⟩ := amount.shape
    cases down with
    | finite negative units representable =>
      rw [length, if_pos rfl]
      exact Nat.le_refl _
    | _ => exact Nat.le_refl _

theorem length_across_extent {down : Binary64} (level : down = .nan ∨ down.IsAmount 0)
    (across : Binary64) : (length across down).extent ≤ across.absoluteUnits := by
  rcases level with rfl | amount
  · cases across with
    | infinite negative => exact Nat.le_refl _
    | _ => exact Nat.zero_le _
  · obtain ⟨_, _, rfl, -⟩ := amount.shape
    cases across with
    | finite negative units representable =>
      by_cases none : units = 0
      · rw [length, if_pos none]
        exact Nat.zero_le _
      · rw [length, if_neg none, if_pos rfl]
        exact Nat.le_refl _
    | _ => exact Nat.le_refl _

end Arithmetic

end Binary64

end QuadrantChart
