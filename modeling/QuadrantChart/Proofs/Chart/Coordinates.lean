/-
This file proves where the coordinates of a point lie, and which colour its marker has.
-/

import QuadrantChart.Layout.Shape

namespace QuadrantChart

namespace Binary64

/-- A number between zero and one. -/
structure InUnit (value : Binary64) : Prop where
  isNumber : value.isNan = false
  lower : le 0 value = true
  upper : le value 1 = true

end Binary64

theorem clampUnit_inUnit (value : Binary64) : (clampUnit value).InUnit := by
  have zero : Binary64.InUnit 0 :=
    ⟨by decide +kernel, by decide +kernel, by decide +kernel⟩
  have one : Binary64.InUnit 1 :=
    ⟨by decide +kernel, by decide +kernel, by decide +kernel⟩
  rw [clampUnit]
  by_cases notNumber : value.isNan = true
  · rw [if_pos notNumber]
    exact zero
  rw [if_neg notNumber]
  have isNumber : value.isNan = false := Bool.eq_false_iff.2 notNumber
  by_cases below : value.lt 0 = true
  · have inside : Binary64.lt 1 0 = false := by decide +kernel
    simpa [Binary64.max, Binary64.min, below, inside] using zero
  by_cases above : Binary64.lt 1 value = true
  · simpa [Binary64.max, Binary64.min, below, above] using one
  · have kept : (value.max 0).min 1 = value := by
      simp [Binary64.max, Binary64.min, below, above]
    rw [kept]
    exact ⟨isNumber, by simp [Binary64.le, zero.isNumber, isNumber, below],
      by simp [Binary64.le, one.isNumber, isNumber, above]⟩

/-- A point with coordinates in the unit square. -/
structure Point.InSquare (point : Point) : Prop where
  x : point.x.InUnit
  y : point.y.InUnit

theorem Point.clamped_inSquare (label : Text) (x y : Binary64) :
    (Point.clamped label x y).InSquare :=
  ⟨clampUnit_inUnit x, clampUnit_inUnit y⟩

/-- The quadrant of a point. The middle belongs to the upper half and to the right half. -/
def Point.quadrant (point : Point) : Quadrant :=
  if Binary64.le (1 / 2) point.y then
    if Binary64.le (1 / 2) point.x then .topRight else .topLeft
  else if Binary64.le (1 / 2) point.x then .bottomRight
  else .bottomLeft

/-- The marker of a point has the colour of its quadrant, and never the neutral one. -/
theorem Point.InSquare.pointColor {point : Point} (inside : point.InSquare) :
    Style.pointColor (.double point.x) (.double point.y) = Style.quadrantColor point.quadrant := by
  have middle : (1 / 2 : Binary64).isNan = false := by decide +kernel
  have order (value : Binary64) (isNumber : value.isNan = false) :
      Binary64.le (1 / 2) value = !value.lt (1 / 2) := by
    simp [Binary64.le, middle, isNumber]
  have x := order point.x inside.x.isNumber
  have y := order point.y inside.y.isNumber
  have found : Quadrant.ofPosition? (.double point.x) (.double point.y) = some point.quadrant := by
    simp only [Quadrant.ofPosition?, Point.quadrant, Number.le, Number.lt, Number.isNan, middle,
      inside.x.isNumber, inside.y.isNumber, x, y]
    cases point.x.lt (1 / 2) <;> cases point.y.lt (1 / 2) <;> rfl
  rw [Style.pointColor, found]

end QuadrantChart
