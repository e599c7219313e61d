/-
This file computes with numbers of sixteenths, on which arithmetic is exact as long as 53 bits can
count them.
-/

import Mathlib.Data.Rat.Cast.Order
import Mathlib.Tactic.Linarith
import Mathlib.Tactic.Ring
import QuadrantChart.Proofs.Number.Whole

namespace QuadrantChart

namespace Binary64

/-- A finite number of as many sixteenths. -/
def IsSixteenths : Binary64 → Int → Prop
  | .finite negative units _, count => signedUnits negative units * 16 = count * unitsPerOne
  | _, _ => False

instance (value : Binary64) (count : Int) : Decidable (value.IsSixteenths count) :=
  match value with
  | .finite _ _ _ => inferInstanceAs (Decidable (_ = _))
  | .infinite _ => isFalse nofun
  | .nan => isFalse nofun

theorem signedUnits_mul (negative : Bool) (units factor : Nat) :
    signedUnits negative (units * factor) = signedUnits negative units * factor := by
  cases negative <;> simp [signedUnits]

theorem signedUnits_product (left right : Bool) (first second : Nat) :
    signedUnits (left != right) (first * second) =
      signedUnits left first * signedUnits right second := by
  cases left <;> cases right <;> simp [signedUnits]

theorem signedUnits_natAbs (value : Int) : signedUnits (value < 0) value.natAbs = value := by
  by_cases below : value < 0
  · simp only [signedUnits, below, decide_true, if_true]
    omega
  · simp only [signedUnits, below, decide_false, Bool.false_eq_true, if_false]
    omega

variable {left right value : Binary64} {first second count : Int}

/-- A quotient that is a number of sixteenths is not rounded. -/
theorem ofUnits_isSixteenths {negative : Bool} {numerator denominator : Nat}
    (positive : 0 < denominator)
    (exact : signedUnits negative numerator * 16 = count * unitsPerOne * denominator)
    (small : count.natAbs ≤ 2 ^ 53) :
    (ofUnits negative numerator denominator).IsSixteenths count := by
  obtain ⟨places, exponent, power⟩ := unitsPerOne_eq
  obtain ⟨lower, rfl⟩ : ∃ lower, places = lower + 4 := ⟨1070, exponent⟩
  have sixteen : unitsPerOne = 2 ^ lower * 16 := by rw [power, Nat.pow_add]
  have representable : Representable (count.natAbs * 2 ^ lower) :=
    representable_shifted small (by omega)
  rw [sixteen] at exact
  generalize 2 ^ lower = part at sixteen representable exact
  have signed : signedUnits negative numerator = count * part * denominator := by
    refine Int.eq_of_mul_eq_mul_right (by decide : (16 : Int) ≠ 0) (exact.trans ?_)
    push_cast
    ring
  have magnitude : numerator = count.natAbs * part * denominator := by
    have absolute := congrArg Int.natAbs signed
    rwa [natAbs_signedUnits, Int.natAbs_mul, Int.natAbs_mul, Int.natAbs_natCast,
      Int.natAbs_natCast] at absolute
  have rounded := roundedQuotient_exact _ denominator positive representable.2
  rw [magnitude, signedUnits_mul] at signed
  rw [ofUnits_eq negative _ _ _ representable (magnitude ▸ rounded), IsSixteenths,
    Int.eq_of_mul_eq_mul_right (by omega) signed, sixteen]
  push_cast
  ring

theorem IsSixteenths.isFinite (isCount : value.IsSixteenths count) : value.isFinite = true := by
  cases value with
  | finite negative units representable => rfl
  | _ => exact isCount.elim

theorem ofSignedUnits_isSixteenths {sum : Int} (zeroNegative : Bool)
    (exact : sum * 16 = count * unitsPerOne) (small : count.natAbs ≤ 2 ^ 53) :
    (ofSignedUnits zeroNegative sum).IsSixteenths count := by
  unfold ofSignedUnits
  split_ifs with zero
  · have none : signedUnits zeroNegative 0 = sum := by
      cases zeroNegative <;> simp [signedUnits, zero]
    exact ofUnits_isSixteenths Nat.one_pos (by rw [none, exact, Nat.cast_one, Int.mul_one]) small
  · exact ofUnits_isSixteenths Nat.one_pos
      (by rw [signedUnits_natAbs, exact, Nat.cast_one, Int.mul_one]) small

theorem IsSixteenths.add (leftCount : left.IsSixteenths first)
    (rightCount : right.IsSixteenths second) (small : (first + second).natAbs ≤ 2 ^ 53) :
    (left + right).IsSixteenths (first + second) := by
  cases left with
  | finite leftNegative leftUnits leftFits =>
    cases right with
    | finite rightNegative rightUnits rightFits =>
      refine ofSignedUnits_isSixteenths _ ?_ small
      rw [IsSixteenths] at leftCount rightCount
      rw [Int.add_mul, Int.add_mul, leftCount, rightCount]
    | _ => exact rightCount.elim
  | _ => exact leftCount.elim

theorem IsSixteenths.sub (leftCount : left.IsSixteenths first)
    (rightCount : right.IsSixteenths second) (small : (first - second).natAbs ≤ 2 ^ 53) :
    (left - right).IsSixteenths (first - second) := by
  have opposite : right.negate.IsSixteenths (-second) := by
    cases right with
    | finite negative units fits =>
      rw [IsSixteenths] at rightCount
      rw [negate, IsSixteenths, signedUnits_not, Int.neg_mul, rightCount, Int.neg_mul]
    | _ => exact rightCount.elim
  exact leftCount.add opposite small

theorem IsSixteenths.mul (leftCount : left.IsSixteenths first)
    (rightCount : right.IsSixteenths second) (product : first * second = 16 * count)
    (small : count.natAbs ≤ 2 ^ 53) : (left * right).IsSixteenths count := by
  cases left with
  | finite leftNegative leftUnits leftFits =>
    cases right with
    | finite rightNegative rightUnits rightFits =>
      refine ofUnits_isSixteenths unitsPerOne_positive ?_ small
      rw [IsSixteenths] at leftCount rightCount
      rw [signedUnits_product]
      refine Int.eq_of_mul_eq_mul_right (by decide : (16 : Int) ≠ 0) ?_
      calc
        _ = signedUnits leftNegative leftUnits * 16 *
            (signedUnits rightNegative rightUnits * 16) := by ring
        _ = first * second * unitsPerOne * unitsPerOne := by
          rw [leftCount, rightCount]
          ring
        _ = count * unitsPerOne * unitsPerOne * 16 := by
          rw [product]
          ring
    | _ => exact rightCount.elim
  | _ => exact leftCount.elim

theorem IsSixteenths.half (isCount : value.IsSixteenths (2 * count))
    (small : count.natAbs ≤ 2 ^ 53) : (value / 2).IsSixteenths count := by
  obtain ⟨fits, two⟩ := two_finite
  have positive := unitsPerOne_positive
  cases value with
  | finite negative units representable =>
    have quotient : .finite negative units representable / (2 : Binary64) =
        ofUnits (negative != false) (units * unitsPerOne) (2 * unitsPerOne) := by
      rw [two]
      exact if_neg (by omega)
    rw [quotient, Bool.bne_false]
    refine ofUnits_isSixteenths (by omega) ?_ small
    rw [IsSixteenths] at isCount
    rw [signedUnits_mul, Int.mul_right_comm, isCount]
    push_cast
    ring
  | _ => exact isCount.elim

end Binary64

namespace Number

open Binary64 (unitsPerOne)

/-- A number of as many sixteenths, which 53 bits can count. -/
structure IsSixteenths (number : Number) (count : Int) : Prop where
  exact : match number with
    | .integer value => value * 16 = count
    | .double value => value.IsSixteenths count
  small : count.natAbs ≤ 2 ^ 53

variable {number left right : Number} {first second count : Int}

theorem IsSixteenths.toDouble (isCount : number.IsSixteenths count) :
    ∃ value, number.toDouble = .ok value ∧ value.IsSixteenths count := by
  cases number with
  | double value => exact ⟨value, rfl, isCount.exact⟩
  | integer value =>
    have rounded : (Binary64.ofQuotient (value < 0) value.natAbs 1).IsSixteenths count := by
      refine Binary64.ofUnits_isSixteenths Nat.one_pos ?_ isCount.small
      rw [Binary64.signedUnits_mul, Binary64.signedUnits_natAbs, Int.mul_right_comm, isCount.exact,
        Nat.cast_one, Int.mul_one]
    exact ⟨_, requireFinite_ok.2 ⟨rfl, rounded.isFinite⟩, rounded⟩

/-- An operation is exact when it is exact on integers and on floating point numbers. -/
theorem IsSixteenths.combine {exact : Int → Int → Int} {rounded : Binary64 → Binary64 → Binary64}
    (leftCount : left.IsSixteenths first) (rightCount : right.IsSixteenths second)
    (small : count.natAbs ≤ 2 ^ 53)
    (integers : ∀ leftValue rightValue, leftValue * 16 = first → rightValue * 16 = second →
      exact leftValue rightValue * 16 = count)
    (doubles : ∀ leftValue rightValue : Binary64, leftValue.IsSixteenths first →
      rightValue.IsSixteenths second → (rounded leftValue rightValue).IsSixteenths count) :
    ∃ result, Number.combine exact rounded left right = .ok result ∧ result.IsSixteenths count := by
  obtain ⟨leftValue, leftDouble, leftExact⟩ := leftCount.toDouble
  obtain ⟨rightValue, rightDouble, rightExact⟩ := rightCount.toDouble
  have result : (Number.double (rounded leftValue rightValue)).IsSixteenths count :=
    ⟨doubles leftValue rightValue leftExact rightExact, small⟩
  cases left with
  | double value =>
    cases leftDouble
    exact ⟨_, combine_left_ok.2 ⟨_, rightDouble, rfl⟩, result⟩
  | integer leftInteger =>
    cases right with
    | double value =>
      cases rightDouble
      exact ⟨_, combine_right_ok.2 ⟨_, leftDouble, rfl⟩, result⟩
    | integer rightInteger =>
      exact ⟨_, rfl, integers _ _ leftCount.exact rightCount.exact, small⟩

theorem IsSixteenths.add (leftCount : left.IsSixteenths first)
    (rightCount : right.IsSixteenths second) (small : (first + second).natAbs ≤ 2 ^ 53) :
    ∃ sum, left.add right = .ok sum ∧ sum.IsSixteenths (first + second) :=
  leftCount.combine rightCount small (fun _ _ _ _ => by omega)
    fun _ _ leftExact rightExact => leftExact.add rightExact small

theorem IsSixteenths.sub (leftCount : left.IsSixteenths first)
    (rightCount : right.IsSixteenths second) (small : (first - second).natAbs ≤ 2 ^ 53) :
    ∃ difference, left.sub right = .ok difference ∧ difference.IsSixteenths (first - second) :=
  leftCount.combine rightCount small (fun _ _ _ _ => by omega)
    fun _ _ leftExact rightExact => leftExact.sub rightExact small

theorem IsSixteenths.mul (leftCount : left.IsSixteenths first)
    (rightCount : right.IsSixteenths second) (product : first * second = 16 * count)
    (small : count.natAbs ≤ 2 ^ 53) :
    ∃ result, left.mul right = .ok result ∧ result.IsSixteenths count := by
  refine leftCount.combine rightCount small ?_
    fun _ _ leftExact rightExact => leftExact.mul rightExact product small
  rintro leftValue rightValue rfl rfl
  refine Int.eq_of_mul_eq_mul_left (by decide : (16 : Int) ≠ 0) ?_
  rw [← product]
  ring

theorem IsSixteenths.half (isCount : number.IsSixteenths (2 * count)) :
    ∃ half, number.half = .ok half ∧ half.IsSixteenths count := by
  have small : count.natAbs ≤ 2 ^ 53 := by
    have twice := isCount.small
    omega
  cases number with
  | double value => exact ⟨_, rfl, Binary64.IsSixteenths.half isCount.exact small, small⟩
  | integer value =>
    have halved : (Binary64.ofQuotient (value < 0) value.natAbs 2).IsSixteenths count := by
      refine Binary64.ofUnits_isSixteenths (by decide) ?_ small
      rw [Binary64.signedUnits_mul, Binary64.signedUnits_natAbs, Int.mul_right_comm, isCount.exact]
      push_cast
      ring
    exact ⟨_, Result.map_ok.2 ⟨_, requireFinite_ok.2 ⟨rfl, halved.isFinite⟩, rfl⟩, halved, small⟩

/-- The exact value of a finite number. -/
def HasValue : Number → ℚ → Prop
  | .integer whole, value => whole = value
  | .double (.finite negative units _), value =>
    Binary64.signedUnits negative units = value * unitsPerOne
  | .double _, _ => False

theorem IsSixteenths.hasValue (isCount : number.IsSixteenths count) :
    number.HasValue ((count : ℚ) / 16) := by
  have exact := isCount.exact
  cases number with
  | integer value =>
    change value * 16 = count at exact
    rw [← exact, HasValue]
    push_cast
    ring
  | double value =>
    cases value with
    | finite negative units representable =>
      change _ = _ at exact
      have equal : (Binary64.signedUnits negative units : ℚ) * 16 = count * unitsPerOne := by
        exact_mod_cast exact
      rw [HasValue]
      linarith
    | _ => exact exact.elim

/-- A small integer, of either kind, is a number of sixteenths. -/
theorem HasValue.isSixteenths {value : Int} (hasValue : number.HasValue value)
    (small : value.natAbs ≤ 2 ^ 49) : number.IsSixteenths (16 * value) := by
  refine ⟨?_, by omega⟩
  cases number with
  | integer integer =>
    change (integer : ℚ) = value at hasValue
    have equal : integer = value := by exact_mod_cast hasValue
    change integer * 16 = 16 * value
    omega
  | double double =>
    cases double with
    | finite negative units representable =>
      change (Binary64.signedUnits negative units : ℚ) = value * unitsPerOne at hasValue
      have equal : Binary64.signedUnits negative units = value * unitsPerOne := by
        exact_mod_cast hasValue
      change Binary64.signedUnits negative units * 16 = 16 * value * unitsPerOne
      rw [equal]
      ring
    | _ => exact hasValue.elim

end Number

end QuadrantChart
