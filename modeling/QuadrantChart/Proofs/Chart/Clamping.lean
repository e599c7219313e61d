/-
This file proves what the coordinates of a point are stored as, and for which numbers there is a
point.
-/

import Mathlib.Data.Int.ConditionallyCompleteOrder
import Mathlib.Order.ConditionallyCompleteLattice.Basic
import QuadrantChart.Proofs.Chart.Coordinates
import QuadrantChart.Proofs.Number.GeometryText
import QuadrantChart.Proofs.Number.Order

namespace QuadrantChart

open Binary64 (Representable roundedQuotient unitsPerOne)

namespace Number

/-- The place of a finite number between the infinite ones. -/
def place (units : Int) : WithBot (WithTop Int) :=
  ((units : WithTop Int) : WithBot (WithTop Int))

section Place

variable {units otherUnits : Int}

@[simp] theorem place_lt_place : place units < place otherUnits ↔ units < otherUnits :=
  WithBot.coe_lt_coe.trans WithTop.coe_lt_coe

@[simp] theorem place_lt_top : place units < ⊤ :=
  WithBot.coe_lt_coe.2 (WithTop.coe_lt_top units)

@[simp] theorem bot_lt_place : ⊥ < place units :=
  WithBot.bot_lt_coe _

end Place

/-- Where a number lies, in units. Infinite numbers lie at the ends, and what is not a number is
left at one of them. -/
def position : Number → WithBot (WithTop Int)
  | .integer value => place (value * unitsPerOne)
  | .double (.finite negative units _) => place (Binary64.signedUnits negative units)
  | .double (.infinite false) => ⊤
  | .double _ => ⊥

variable {first second number : Number} {stored otherStored : Binary64}

/-- Numbers of either kind are in the order of their positions. -/
theorem lt_iff_position (isNumber : first.isNan = false) (otherIsNumber : second.isNan = false) :
    first.lt second = true ↔ first.position < second.position := by
  have positive : (0 : Int) < unitsPerOne := Int.natCast_pos.2 Binary64.unitsPerOne_positive
  cases first with
  | integer left =>
    cases second with
    | integer right => simp [lt, position, Int.mul_lt_mul_right positive]
    | double right =>
      cases right with
      | nan => cases otherIsNumber
      | infinite negative => cases negative <;> simp [lt, integerLt, position]
      | finite negative units representable => simp [lt, integerLt, position]
  | double left =>
    cases left with
    | nan => cases isNumber
    | infinite negative =>
      cases second with
      | integer right => cases negative <;> simp [lt, ltInteger, position]
      | double right =>
        cases right with
        | nan => cases otherIsNumber
        | infinite other => cases negative <;> cases other <;> simp [lt, Binary64.lt, position]
        | finite other units representable => cases negative <;> simp [lt, Binary64.lt, position]
    | finite negative units representable =>
      cases second with
      | integer right => simp [lt, ltInteger, position]
      | double right =>
        cases right with
        | nan => cases otherIsNumber
        | infinite other => cases other <;> simp [lt, Binary64.lt, position]
        | finite other otherUnits otherFits => simp [lt, Binary64.lt, position]

theorem le_iff_position (isNumber : first.isNan = false) (otherIsNumber : second.isNan = false) :
    first.le second = true ↔ first.position ≤ second.position := by
  have order := lt_iff_position otherIsNumber isNumber
  rw [← not_lt, ← order, le, isNumber, otherIsNumber]
  cases second.lt first <;> simp

theorem numbers_of_le (order : first.le second = true) :
    first.isNan = false ∧ second.isNan = false := by
  rw [le, Bool.and_eq_true, Bool.and_eq_true, Bool.not_eq_true', Bool.not_eq_true'] at order
  exact order.1

/-- What a number is stored as in a point: as itself between zero and one, and as the nearer one of
these beyond them. What is not a number is stored as zero. -/
structure StoredAs (number : Number) (stored : Binary64) : Prop where
  kept : number.InUnit → number.toDouble = .ok stored ∧ number.Same (.double stored)
  raised : number.isNan = true ∨ number.lt 0 = true → stored = 0
  lowered : Number.lt 1 number = true → stored = 1

theorem zero_position : (Number.double 0).position = position 0 := by
  obtain ⟨_, zero⟩ := Binary64.zero_finite
  rw [zero]
  simp [position, Binary64.signedUnits]

theorem one_position : (Number.double 1).position = position 1 := by
  obtain ⟨_, one⟩ := Binary64.one_finite
  rw [one]
  simp [position, Binary64.signedUnits]

theorem zero_le_one_position : position 0 ≤ position 1 :=
  (le_iff_position rfl rfl).1 (by decide)

theorem StoredAs.position (storedAs : number.StoredAs stored) (isNumber : number.isNan = false) :
    (Number.double stored).position = position 0 ⊔ number.position ⊓ position 1 := by
  by_cases below : number.lt 0 = true
  · rw [storedAs.raised (.inr below), zero_position]
    have order := (lt_iff_position isNumber rfl).1 below
    rw [inf_eq_left.2 (order.le.trans zero_le_one_position), sup_eq_left.2 order.le]
  by_cases above : Number.lt 1 number = true
  · rw [storedAs.lowered above, one_position]
    have order := (lt_iff_position rfl isNumber).1 above
    rw [inf_eq_right.2 order.le, sup_eq_right.2 zero_le_one_position]
  · have lower : Number.le 0 number = true := by
      rw [le, isNumber, Bool.eq_false_iff.2 below]
      rfl
    have upper : number.le 1 = true := by
      rw [le, isNumber, Bool.eq_false_iff.2 above]
      rfl
    obtain ⟨-, same⟩ := storedAs.kept ⟨lower, upper⟩
    rcases same with ⟨notNumber, -⟩ | ⟨toStored, fromStored⟩
    · cases isNumber.symm.trans notNumber
    · have storedIsNumber := (numbers_of_le toStored).2
      have equal := le_antisymm ((le_iff_position storedIsNumber isNumber).1 fromStored)
        ((le_iff_position isNumber storedIsNumber).1 toStored)
      rw [equal, inf_eq_left.2 ((le_iff_position isNumber rfl).1 upper),
        sup_eq_right.2 ((le_iff_position rfl isNumber).1 lower)]

/-- Storing keeps the order of numbers. -/
theorem StoredAs.mono (storedAs : first.StoredAs stored)
    (otherStoredAs : second.StoredAs otherStored)
    (isNumber : stored.isNan = false) (otherIsNumber : otherStored.isNan = false)
    (order : first.le second = true) : stored.le otherStored = true := by
  obtain ⟨firstIsNumber, secondIsNumber⟩ := numbers_of_le order
  have positions := (le_iff_position firstIsNumber secondIsNumber).1 order
  have positioned : (Number.double stored).le (.double otherStored) = true ↔
      (Number.double stored).position ≤ (Number.double otherStored).position :=
    le_iff_position isNumber otherIsNumber
  refine positioned.2 ?_
  rw [storedAs.position firstIsNumber, otherStoredAs.position secondIsNumber]
  exact sup_le_sup_left (inf_le_inf_right _ positions) _

/-- An integer is rounded to no less than a small one that it reaches. -/
theorem toDouble_beyond {value : Int} {count : Nat}
    (converts : (integer value).toDouble = .ok stored)
    (representable : Representable (count * unitsPerOne)) (order : count ≤ value.natAbs) :
    ∃ units fits, stored = .finite (value < 0) units fits ∧ count * unitsPerOne ≤ units := by
  obtain ⟨rfl, finite⟩ := requireFinite_ok.1 converts
  have below := Binary64.ofUnits_isFinite.1 finite
  refine ⟨roundedQuotient (value.natAbs * unitsPerOne) 1, _, dif_pos below, ?_⟩
  calc
    count * unitsPerOne = roundedQuotient (count * unitsPerOne) 1 :=
      (Binary64.roundedQuotient_one representable).symm
    _ ≤ roundedQuotient (value.natAbs * unitsPerOne) 1 :=
      Binary64.roundedQuotient_mono 1 (Nat.mul_le_mul_right _ order)

theorem double_lt_zero (value : Binary64) : (Number.double value).lt 0 = value.lt 0 := by
  obtain ⟨_, zero⟩ := Binary64.zero_finite
  rw [zero]
  cases value with
  | finite negative units representable => simp [lt, ltInteger, Binary64.lt, Binary64.signedUnits]
  | _ => rfl

theorem one_lt_double (value : Binary64) : Number.lt 1 (.double value) = Binary64.lt 1 value := by
  obtain ⟨_, one⟩ := Binary64.one_finite
  rw [one]
  cases value with
  | finite negative units representable =>
    simp [lt, integerLt, Binary64.lt, Binary64.signedUnits]
  | _ => rfl

theorem toDouble_lt_zero {value : Binary64} (converts : number.toDouble = .ok value)
    (below : number.lt 0 = true) : value.lt 0 = true := by
  cases number with
  | double double =>
    cases converts
    rwa [double_lt_zero] at below
  | integer integer =>
    have negative : integer < 0 := of_decide_eq_true below
    obtain ⟨representable, -⟩ := Binary64.one_finite
    have positive := Binary64.unitsPerOne_positive
    rw [← Nat.one_mul unitsPerOne] at representable
    obtain ⟨units, fits, rfl, reached⟩ := toDouble_beyond converts representable (by omega)
    obtain ⟨_, zero⟩ := Binary64.zero_finite
    simp [zero, Binary64.lt, Binary64.signedUnits, negative]
    omega

theorem one_lt_toDouble {value : Binary64} (converts : number.toDouble = .ok value)
    (above : Number.lt 1 number = true) : Binary64.lt 1 value = true := by
  cases number with
  | double double =>
    cases converts
    rwa [one_lt_double] at above
  | integer integer =>
    have greater : 1 < integer := of_decide_eq_true above
    obtain ⟨representable, -⟩ := Binary64.two_finite
    have positive := Binary64.unitsPerOne_positive
    obtain ⟨units, fits, rfl, reached⟩ := toDouble_beyond converts representable (by omega)
    obtain ⟨_, one⟩ := Binary64.one_finite
    have notNegative : ¬integer < 0 := by omega
    simp [one, Binary64.lt, Binary64.signedUnits, notNegative]
    omega

end Number

/-- Coordinates between zero and one stay as they are. -/
theorem clampUnit_inside {value : Binary64} (inside : value.InUnit) : clampUnit value = value := by
  have notBelow : value.lt 0 = false := by
    have lower := inside.lower
    rw [Binary64.le, Bool.and_eq_true, Bool.not_eq_true'] at lower
    exact lower.2
  have notAbove : Binary64.lt 1 value = false := by
    have upper := inside.upper
    rw [Binary64.le, Bool.and_eq_true, Bool.not_eq_true'] at upper
    exact upper.2
  simp [clampUnit, Binary64.max, Binary64.min, inside.isNumber, notBelow, notAbove]

theorem clampUnit_below {value : Binary64} (below : value.lt 0 = true) : clampUnit value = 0 := by
  have isNumber : value.isNan = false := by
    cases value with
    | nan => cases below
    | _ => rfl
  have inside : Binary64.lt 1 0 = false := by decide +kernel
  simp [clampUnit, Binary64.max, Binary64.min, isNumber, below, inside]

theorem clampUnit_above {value : Binary64} (above : Binary64.lt 1 value = true) :
    clampUnit value = 1 := by
  obtain ⟨_, one⟩ := Binary64.one_finite
  obtain ⟨_, zero⟩ := Binary64.zero_finite
  have isNumber : value.isNan = false := by
    cases value with
    | nan =>
      rw [one] at above
      cases above
    | _ => rfl
  have notBelow : value.lt 0 = false := by
    rw [zero]
    rw [one] at above
    cases value with
    | nan => rfl
    | infinite negative =>
      cases negative with
      | true => cases above
      | false => rfl
    | finite negative units representable =>
      simp [Binary64.lt, Binary64.signedUnits] at above ⊢
      omega
  simp [clampUnit, Binary64.max, Binary64.min, isNumber, notBelow, above]

theorem Number.storedAs_clampUnit {number : Number} {value : Binary64}
    (converts : number.toDouble = .ok value) : number.StoredAs (clampUnit value) where
  kept inside := by
    obtain ⟨units, bounded, amount, _, again, valueAmount⟩ := inside.amount
    cases converts.symm.trans again
    obtain ⟨zeroFits, zero⟩ := Binary64.zero_finite
    obtain ⟨oneFits, one⟩ := Binary64.one_finite
    have zeroAmount : Binary64.IsAmount 0 0 := ⟨false, 0, zeroFits, zero, rfl⟩
    have oneAmount : Binary64.IsAmount 1 unitsPerOne := ⟨false, unitsPerOne, oneFits, one, rfl⟩
    have kept : clampUnit value = value := clampUnit_inside
      ⟨valueAmount.isNan, (zeroAmount.le_iff valueAmount).2 (Nat.zero_le _),
        (valueAmount.le_iff oneAmount).2 bounded⟩
    rw [kept]
    have rounded : (Number.double value).IsAmount units := valueAmount
    exact ⟨converts, (amount.same_iff rounded).2 rfl⟩
  raised := by
    rintro (notNumber | below)
    · cases number with
      | integer integer => cases notNumber
      | double double =>
        cases converts
        exact if_pos notNumber
    · exact clampUnit_below (toDouble_lt_zero converts below)
  lowered above := clampUnit_above (one_lt_toDouble converts above)

namespace Point

variable {label : Text} {x y : Number} {point : Point}

theorem ofNumbers_ok :
    ofNumbers label x y = .ok point ↔
      ∃ across down, x.toDouble = .ok across ∧ y.toDouble = .ok down ∧
        clamped label across down = point := by
  simp only [ofNumbers, Result.bind_ok, Result.pure_ok, exists_and_left]

/-- There is no point exactly for an integer that is rounded to infinity. -/
theorem ofNumbers_error {fault : Fault} :
    ofNumbers label x y = .error fault ↔
      fault = .integerTooLarge ∧ (x.RoundsToInfinity ∨ y.RoundsToInfinity) := by
  rw [ofNumbers, Result.bind_error, Number.toDouble_error]
  simp only [Result.bind_error, Number.toDouble_error, pure, Except.pure, reduceCtorEq, and_false,
    exists_false, or_false]
  constructor
  · rintro (⟨tooLarge, infinite⟩ | ⟨_, -, tooLarge, infinite⟩)
    · exact ⟨tooLarge, .inl infinite⟩
    · exact ⟨tooLarge, .inr infinite⟩
  · rintro ⟨rfl, infinite | infinite⟩
    · exact .inl ⟨rfl, infinite⟩
    · rcases x.convertible_or_tooLarge with ⟨across, converts⟩ | fails
      · exact .inr ⟨across, converts, rfl, infinite⟩
      · exact .inl (Number.toDouble_error.1 fails)

/-- A point is made again from what it holds. -/
theorem InSquare.ofNumbers (inside : point.InSquare) :
    ofNumbers point.label (.double point.x) (.double point.y) = .ok point := by
  refine ofNumbers_ok.2 ⟨point.x, point.y, rfl, rfl, ?_⟩
  rw [clamped, clampUnit_inside inside.x, clampUnit_inside inside.y]

/-- Points are made from all numbers but the integers that are rounded to infinity. They hold their
label and their coordinates clamped to the unit square, which keeps coordinates within it and the
order of any others, and so changes nothing when it is done again. -/
theorem ofNumbers_clamps (label : Text) (x y : Number) :
    (∀ fault, ofNumbers label x y = .error fault ↔
      fault = .integerTooLarge ∧ (x.RoundsToInfinity ∨ y.RoundsToInfinity)) ∧
    (∀ value, (Number.integer value).RoundsToInfinity ↔ 2 ^ 1024 ≤ value.natAbs + 2 ^ 970) ∧
    (∀ value, ¬(Number.double value).RoundsToInfinity) ∧
    ∀ point, ofNumbers label x y = .ok point →
      point.label = label ∧ point.InSquare ∧ x.StoredAs point.x ∧ y.StoredAs point.y ∧
      ofNumbers point.label (.double point.x) (.double point.y) = .ok point ∧
      ∀ (otherLabel : Text) (otherX otherY : Number) (other : Point),
        ofNumbers otherLabel otherX otherY = .ok other →
          (x.le otherX = true → point.x.le other.x = true) ∧
            (y.le otherY = true → point.y.le other.y = true) := by
  refine ⟨fun fault => ofNumbers_error, fun value => Number.roundsToInfinity_iff, ?_, ?_⟩
  · rintro value ⟨_, ⟨⟩, -⟩
  · intro point made
    obtain ⟨across, down, xDouble, yDouble, rfl⟩ := ofNumbers_ok.1 made
    have inside := clamped_inSquare label across down
    have xStored := Number.storedAs_clampUnit xDouble
    have yStored := Number.storedAs_clampUnit yDouble
    refine ⟨rfl, inside, xStored, yStored, inside.ofNumbers, ?_⟩
    intro otherLabel otherX otherY other otherMade
    obtain ⟨otherAcross, otherDown, otherXDouble, otherYDouble, rfl⟩ := ofNumbers_ok.1 otherMade
    have otherInside := clamped_inSquare otherLabel otherAcross otherDown
    have otherXStored := Number.storedAs_clampUnit otherXDouble
    have otherYStored := Number.storedAs_clampUnit otherYDouble
    exact ⟨xStored.mono otherXStored inside.x.isNumber otherInside.x.isNumber,
      yStored.mono otherYStored inside.y.isNumber otherInside.y.isNumber⟩

/-- There is no point at an integer of 401 digits, although it lies beyond one as others do. -/
theorem ofNumbers_refuses_largeInteger :
    Number.lt 1 (.integer (10 ^ 400)) = true ∧
      ofNumbers ['A'] (.integer (10 ^ 400)) 0 = .error .integerTooLarge ∧
      ofNumbers ['A'] (.integer (10 ^ 300)) 0 = .ok ⟨['A'], 1, 0⟩ := by
  decide +kernel

end Point

end QuadrantChart
