/-
This file proves that the frame of a chart has finite numbers when it has a page.
-/

import QuadrantChart.Preview.Basic
import QuadrantChart.Proofs.Layout.Shapes
import QuadrantChart.Proofs.Number.Amount

namespace QuadrantChart

open Binary64 (roundedQuotient roundedQuotient_mono overflowUnits)

namespace LayoutConfig

variable {config : LayoutConfig}

theorem isFinite_ok (finite : config.isFinite = .ok true) :
    config.canvasSize.isFinite = .ok true ∧ config.padding.isFinite = .ok true := by
  obtain ⟨canvasFinite, isFinite, padding⟩ := Result.bind_ok.1 finite
  cases canvasFinite with
  | false => cases Result.pure_ok.1 padding
  | true => exact ⟨isFinite, padding⟩

/-- Valid dimensions are amounts. -/
theorem validate_amounts (valid : config.validate = .ok ()) :
    ∃ canvas padding, config.canvasSize.IsAmount canvas ∧ config.padding.IsAmount padding := by
  obtain ⟨finite, isFinite, checked⟩ := Result.bind_ok.1 valid
  cases finite with
  | false => cases checked
  | true =>
    obtain ⟨canvasFinite, paddingFinite⟩ := isFinite_ok isFinite
    cases flat : config.canvasSize.le 0 with
    | true =>
      rw [flat] at checked
      cases checked
    | false =>
      cases below : config.padding.lt 0 with
      | true =>
        rw [flat, below] at checked
        cases checked
      | false =>
        obtain ⟨canvas, canvasAmount⟩ := Number.isAmount_of_finite canvasFinite
          (Number.lt_zero_of_le canvasFinite flat)
        obtain ⟨padding, paddingAmount⟩ := Number.isAmount_of_finite paddingFinite below
        exact ⟨canvas, padding, canvasAmount, paddingAmount⟩

/-- A page has a finite side. -/
theorem pageSide_ok {side : Int} (page : Preview.pageSide config (.double 1) = .ok side) :
    ∃ twice total value, Number.mul 2 config.padding = .ok twice ∧
      config.canvasSize.add twice = .ok total ∧ total.toDouble = .ok value ∧
      value.isFinite = true := by
  have measured : (do return max 1 (← (← (← config.totalSize).mul (.double 1)).round) :
      Except Fault Int) = .ok side := by
    unfold Preview.pageSide at page
    split at page
    · cases page
    · exact page
  simp only [Result.bind_ok, Number.mul_one_ok, totalSize] at measured
  obtain ⟨total, ⟨twice, doubled, added⟩, _, ⟨value, converts, rfl⟩, rounded, nearest, -⟩ :=
    measured
  refine ⟨twice, total, value, doubled, added, converts, ?_⟩
  cases value with
  | nan => cases nearest
  | infinite negative => cases nearest
  | finite negative units representable => rfl

end LayoutConfig

namespace Layout

variable {config : LayoutConfig} (place : FramePlace config) {canvas padding : Nat}

/-- The middle and the far end of a canvas are finite. -/
structure FramePlace.Bounded (place : FramePlace config) (canvas padding : Nat) : Prop where
  middle :
    roundedQuotient (roundedQuotient padding 1 + roundedQuotient canvas 2) 1 < overflowUnits
  far : ∃ far reach, place.far.toDouble = .ok far ∧ far.IsAmount reach ∧
    roundedQuotient padding 1 ≤ reach

/-- Exact sums stay below the overflow with the exact side of the page. -/
theorem FramePlace.far_integers {canvasValue paddingValue : Int} {twice total : Number}
    {value : Binary64} (canvasInteger : config.canvasSize = .integer canvasValue)
    (paddingInteger : config.padding = .integer paddingValue)
    (canvasAmount : config.canvasSize.IsAmount canvas)
    (paddingAmount : config.padding.IsAmount padding)
    (doubled : Number.mul 2 config.padding = .ok twice)
    (added : config.canvasSize.add twice = .ok total) (converts : total.toDouble = .ok value) :
    place.Bounded canvas padding := by
  have farEnd := place.farEnd
  rw [canvasInteger] at canvasAmount added farEnd
  rw [paddingInteger] at paddingAmount doubled farEnd
  cases doubled
  cases added
  have far : place.far = .integer (paddingValue + canvasValue) := (Except.ok.inj farEnd).symm
  have totalAmount : Number.IsAmount (.integer (canvasValue + 2 * paddingValue))
      (canvas + 2 * padding) := by
    rw [Number.IsAmount] at canvasAmount paddingAmount ⊢
    rw [Int.add_mul, Int.mul_assoc, canvasAmount, paddingAmount]
    rfl
  have farAmount : Number.IsAmount (.integer (paddingValue + canvasValue)) (padding + canvas) := by
    rw [Number.IsAmount] at canvasAmount paddingAmount ⊢
    rw [Int.add_mul, canvasAmount, paddingAmount]
    rfl
  have below := (totalAmount.toDouble converts).representable.1
  constructor
  · have exact := Binary64.lt_overflow (by decide) below
    rw [Nat.mul_one] at exact
    exact Binary64.half_below_overflow exact
  · have farBelow : roundedQuotient (padding + canvas) 1 < overflowUnits :=
      Nat.lt_of_le_of_lt (roundedQuotient_mono 1 (by omega)) below
    obtain ⟨farValue, farConverts, rounded⟩ := farAmount.converts farBelow
    rw [far]
    exact ⟨farValue, _, farConverts, rounded, roundedQuotient_mono 1 (by omega)⟩

/-- Rounded sums stay below the overflow with the rounded side of the page. -/
theorem FramePlace.far_rounded {twice total : Number} {value : Binary64}
    (mixed : ∀ first second, ¬(config.padding = .integer first ∧
      config.canvasSize = .integer second))
    (canvasAmount : config.canvasSize.IsAmount canvas)
    (paddingAmount : config.padding.IsAmount padding)
    (doubled : Number.mul 2 config.padding = .ok twice)
    (added : config.canvasSize.add twice = .ok total) (converts : total.toDouble = .ok value)
    (finite : value.isFinite = true) :
    place.Bounded canvas padding := by
  have mixedTwice : ∀ first second, ¬(config.canvasSize = .integer first ∧
      twice = .integer second) := by
    rintro first second ⟨canvasInteger, twiceInteger⟩
    cases stored : config.padding with
    | integer third => exact mixed third first ⟨stored, canvasInteger⟩
    | double third =>
      rw [stored] at doubled
      obtain ⟨factor, -, product⟩ := Result.bind_ok.1 doubled
      rw [twiceInteger] at product
      cases product
  obtain ⟨canvasValue, twiceValue, canvasDouble, twiceDouble, rfl⟩ :=
    (Number.add_rounded mixedTwice).1 added
  cases converts
  obtain ⟨-, twiceFinite⟩ := Binary64.finite_of_add finite
  have canvasRounded := canvasAmount.toDouble canvasDouble
  have twiceRounded := paddingAmount.twice doubled twiceDouble twiceFinite
  have below := canvasRounded.add_below twiceRounded finite
  obtain ⟨paddingValue, canvasAgain, paddingDouble, sameCanvas, far⟩ :=
    (Number.add_rounded mixed).1 place.farEnd
  cases canvasDouble.symm.trans sameCanvas
  have paddingRounded := paddingAmount.toDouble paddingDouble
  have paddingOrder : roundedQuotient padding 1 ≤ roundedQuotient (2 * padding) 1 :=
    roundedQuotient_mono 1 (by omega)
  have halfOrder : roundedQuotient canvas 2 ≤ roundedQuotient canvas 1 := by
    calc
      roundedQuotient canvas 2 ≤ roundedQuotient (canvas * 2) (1 * 2) :=
        roundedQuotient_mono 2 (by omega)
      _ = roundedQuotient canvas 1 := Binary64.roundedQuotient_scale canvas 1 2 (by decide)
  constructor
  · exact Nat.lt_of_le_of_lt (roundedQuotient_mono 1 (by omega)) below
  · have farBelow : roundedQuotient (roundedQuotient padding 1 + roundedQuotient canvas 1) 1 <
        overflowUnits := Nat.lt_of_le_of_lt (roundedQuotient_mono 1 (by omega)) below
    rw [far]
    refine ⟨_, _, rfl, paddingRounded.add_amount canvasRounded farBelow, ?_⟩
    calc
      roundedQuotient padding 1 = roundedQuotient (roundedQuotient padding 1) 1 :=
        paddingRounded.rounded.symm
      _ ≤ roundedQuotient (roundedQuotient padding 1 + roundedQuotient canvas 1) 1 :=
        roundedQuotient_mono 1 (Nat.le_add_right _ _)

/-- The padding, the far end and the middle of a canvas are finite when its page is. -/
theorem FramePlace.finite {side : Int} (valid : config.validate = .ok ())
    (page : Preview.pageSide config (.double 1) = .ok side) :
    ∃ padding far middle near reach centre,
      config.padding.toDouble = .ok padding ∧ padding.IsAmount near ∧
      place.far.toDouble = .ok far ∧ far.IsAmount reach ∧ near ≤ reach ∧
      place.middle = .double middle ∧ middle.IsAmount centre := by
  obtain ⟨canvas, padding, canvasAmount, paddingAmount⟩ := LayoutConfig.validate_amounts valid
  obtain ⟨twice, total, value, doubled, added, converts, finite⟩ := LayoutConfig.pageSide_ok page
  have bounded : place.Bounded canvas padding := by
    by_cases mixed : ∀ first second, ¬(config.padding = .integer first ∧
        config.canvasSize = .integer second)
    · exact place.far_rounded mixed canvasAmount paddingAmount doubled added converts finite
    · simp only [not_forall, not_not] at mixed
      obtain ⟨paddingValue, canvasValue, paddingInteger, canvasInteger⟩ := mixed
      exact place.far_integers canvasInteger paddingInteger canvasAmount paddingAmount doubled
        added converts
  obtain ⟨middleBelow, far, reach, farDouble, farAmount, order⟩ := bounded
  obtain ⟨half, halved, centred⟩ := Result.bind_ok.1 place.centre
  obtain ⟨halfValue, rfl, halfAmount⟩ := canvasAmount.half halved
  have mixed : ∀ first second, ¬(config.padding = .integer first ∧
      Number.double halfValue = .integer second) :=
    fun first second both => nomatch both.2
  obtain ⟨paddingValue, _, paddingDouble, sameHalf, middle⟩ := (Number.add_rounded mixed).1 centred
  cases sameHalf
  have paddingRounded := paddingAmount.toDouble paddingDouble
  exact ⟨paddingValue, far, _, _, reach, _, paddingDouble, paddingRounded, farDouble, farAmount,
    order, middle, paddingRounded.add_amount halfAmount middleBelow⟩

end Layout

end QuadrantChart
