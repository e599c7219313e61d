/-
This file places the shapes of a layout whose dimensions are floating point numbers.
-/

import QuadrantChart.Proofs.Layout.Placement

namespace QuadrantChart

/-- The dimensions of a layout in floating point numbers. -/
structure Dimensions where
  canvasSize : Binary64
  padding : Binary64
  titleTop : Binary64
  titleHeight : Binary64
  axisLabelWidth : Binary64
  axisLabelHeight : Binary64
  markerSize : Binary64
  labelOffset : Binary64
  topLabelRise : Binary64

namespace Dimensions

def config (dimensions : Dimensions) : LayoutConfig where
  canvasSize := .double dimensions.canvasSize
  padding := .double dimensions.padding
  titleTop := .double dimensions.titleTop
  titleHeight := .double dimensions.titleHeight
  axisLabelWidth := .double dimensions.axisLabelWidth
  axisLabelHeight := .double dimensions.axisLabelHeight
  markerSize := .double dimensions.markerSize
  labelOffset := .double dimensions.labelOffset
  topLabelRise := .double dimensions.topLabelRise

/-- The numbers that place a point, in the arithmetic of floating point numbers. -/
theorem pointPlace_doubles (dimensions : Dimensions) {point : Point}
    (place : Layout.PointPlace dimensions.config point) :
    ∃ across down,
      Layout.toCanvas dimensions.config (.double point.x) (.double point.y) =
        .ok (.double across, .double down) ∧
      place.left = .double (across - dimensions.markerSize / 2) ∧
      place.top = .double (down - dimensions.markerSize / 2) ∧
      place.labelLeft = .double (across + dimensions.labelOffset) ∧
      place.labelTop = .double (down - dimensions.labelOffset) := by
  obtain ⟨across, down, radius, left, top, labelLeft, labelTop, centre, halved, leftOfCentre,
    aboveCentre, rightOfCentre, overCentre⟩ := place
  cases centre
  cases halved
  cases leftOfCentre
  cases aboveCentre
  cases rightOfCentre
  cases overCentre
  exact ⟨_, _, rfl, rfl, rfl, rfl, rfl⟩

theorem moderate (dimensions : Dimensions) : dimensions.config.Moderate := by
  constructor <;> exact Number.within_double _ _

end Dimensions

end QuadrantChart
