/-
This file places a canvas of whole dimensions at a whole scale, in exact numbers.
-/

import QuadrantChart.Layout.Config
import QuadrantChart.Proofs.Number.Whole

namespace QuadrantChart

open Binary64 (ofQuotient unitsPerOne roundedQuotient)

/-- A canvas of a whole size with a margin of a whole size, at a whole scale that leaves its far end
well below the integers that are rounded. -/
structure LayoutConfig.IsWhole (config : LayoutConfig) (scale : Number)
    (size margin factor : Nat) : Prop where
  canvasSize : config.canvasSize.IsWhole size
  padding : config.padding.IsWhole margin
  scale : scale.IsWhole factor
  sizePositive : 0 < size
  factorPositive : 0 < factor
  small : factor * (margin + size) ≤ 2 ^ 50

namespace LayoutConfig.IsWhole

variable {config : LayoutConfig} {scale : Number} {size margin factor : Nat}
  (whole : config.IsWhole scale size margin factor)
include whole

theorem factor_small : factor ≤ 2 ^ 50 := by
  have positive : 0 < margin + size := Nat.lt_add_left margin whole.sizePositive
  exact Nat.le_trans (Nat.le_mul_of_pos_right factor positive) whole.small

theorem far_small : margin + size ≤ 2 ^ 50 :=
  Nat.le_trans (Nat.le_mul_of_pos_left _ whole.factorPositive) whole.small

/-- The far end of the canvas is a whole number. -/
theorem far {far : Number} (farEnd : config.padding.add config.canvasSize = .ok far) :
    far.IsWhole (margin + size) := by
  have small := whole.far_small
  obtain ⟨sum, added, sumWhole⟩ := whole.padding.add whole.canvasSize (by omega)
  cases farEnd.symm.trans added
  exact sumWhole

/-- The middle of the canvas is a whole number of halves. -/
theorem middle {middle : Number} (centre : config.middle = .ok middle) :
    ∃ value, middle = .double value ∧
      value.IsAmount ((2 * margin + size) * roundedQuotient unitsPerOne 2) := by
  have small := whole.far_small
  obtain ⟨half, halved, sum⟩ := Result.bind_ok.1 centre
  obtain ⟨halfValue, rfl, halfAmount⟩ := Number.IsAmount.half whole.canvasSize halved
  obtain ⟨paddingValue, paddingDouble, rfl⟩ := Number.combine_right_ok.1 sum
  obtain ⟨_, paddingAgain, paddingAmount⟩ := whole.padding.toDouble (by omega)
  cases paddingDouble.symm.trans paddingAgain
  refine ⟨_, rfl, ?_⟩
  have halves : (2 * margin + size) * roundedQuotient unitsPerOne 2 =
      margin * unitsPerOne + size * roundedQuotient unitsPerOne 2 := by
    rw [Nat.add_mul, Nat.mul_comm 2, Nat.mul_assoc, Binary64.half_one]
  have representable :=
    Binary64.representable_halves (by omega : 2 * margin + size ≤ 2 ^ 53)
  rw [Binary64.roundedQuotient_halves (by omega)] at halfAmount
  rw [halves] at representable ⊢
  exact paddingAmount.add_exact halfAmount representable

theorem size_small : factor * size ≤ 2 ^ 50 :=
  Nat.le_trans (Nat.mul_le_mul_left _ (Nat.le_add_left _ _)) whole.small

theorem middle_small : factor * (2 * margin + size) ≤ 2 ^ 53 :=
  calc
    factor * (2 * margin + size) ≤ factor * (2 * (margin + size)) :=
      Nat.mul_le_mul_left _ (by omega)
    _ = 2 * (factor * (margin + size)) := Nat.mul_left_comm _ _ _
    _ ≤ 2 * 2 ^ 50 := Nat.mul_le_mul_left _ whole.small
    _ ≤ 2 ^ 53 := by decide

/-- The middle of the canvas at the scale. -/
theorem middle_scaled {middle : Number} (centre : config.middle = .ok middle) :
    middle.mul scale = .ok (.double (ofQuotient false (factor * (2 * margin + size)) 2)) := by
  have factorSmall := whole.factor_small
  have halvesSmall := whole.middle_small
  have representable := Binary64.representable_halves halvesSmall
  obtain ⟨value, rfl, amount⟩ := whole.middle centre
  obtain ⟨scaleValue, scaleDouble, scaleAmount⟩ := whole.scale.toDouble (by omega)
  have regrouped : (2 * margin + size) * roundedQuotient unitsPerOne 2 * factor =
      factor * (2 * margin + size) * roundedQuotient unitsPerOne 2 := by
    rw [Nat.mul_comm, Nat.mul_assoc]
  have product := amount.mul_exact scaleAmount (regrouped ▸ representable)
  rw [regrouped] at product
  have positive : 0 < factor * (2 * margin + size) * roundedQuotient unitsPerOne 2 := by
    have sizePositive := whole.sizePositive
    have half := Binary64.half_one
    have one := Binary64.unitsPerOne_positive
    exact Nat.mul_pos (Nat.mul_pos whole.factorPositive (by omega)) (by omega)
  refine Number.combine_left_ok.2 ⟨scaleValue, scaleDouble, congrArg Number.double ?_⟩
  rw [product.eq_finite positive, Binary64.ofQuotient_halves halvesSmall]

/-- A whole number within the canvas is exact at the scale. -/
theorem scaled {number : Number} {count : Nat} (numberWhole : number.IsWhole count)
    (inside : count ≤ margin + size) :
    ∃ product, number.mul scale = .ok product ∧ product.IsWhole (factor * count) := by
  have bounded : factor * count ≤ 2 ^ 50 :=
    Nat.le_trans (Nat.mul_le_mul_left _ inside) whole.small
  have farSmall := whole.far_small
  have factorSmall := whole.factor_small
  rw [Nat.mul_comm] at bounded ⊢
  exact numberWhole.mul whole.scale (by omega) (by omega) (by omega)

theorem valid : config.validate = .ok () := by
  have small := whole.far_small
  have sizePositive := whole.sizePositive
  have canvasFinite := whole.canvasSize.isFinite (by omega)
  have paddingFinite := whole.padding.isFinite (by omega)
  have wide : config.canvasSize.le 0 = false := by
    rw [← Bool.not_eq_true, whole.canvasSize.le_iff Number.zero_whole]
    omega
  have outside : config.padding.lt 0 = false := by
    rw [← Bool.not_eq_true, whole.padding.lt_iff Number.zero_whole]
    omega
  simp only [validate, isFinite, canvasFinite, paddingFinite, wide, outside, bind, Except.bind,
    pure, Except.pure]
  rfl

end LayoutConfig.IsWhole

end QuadrantChart
