/-
This file says which items the styles of a layout have.
-/

import QuadrantChart.Layout.Shape
import QuadrantChart.Preview.StyleTable

namespace QuadrantChart

namespace Style

/-- Whether a word is an item of a style by itself. -/
def hasWord (style word : Text) : Bool :=
  ((Text.splitOn ';' style).map Text.trim).contains word

/-- The styles of the shapes that are texts only. -/
def labels : List Text :=
  [title, watermark, axisLabel, lowLabel, highLabel, pointLabel]

@[simp] theorem mem_labels {style : Text} :
    style ∈ labels ↔ style = title ∨ style = watermark ∨ style = axisLabel ∨ style = lowLabel ∨
      style = highLabel ∨ style = pointLabel := by
  simp [labels]

/-- The colours of markers. -/
def colors : List Text :=
  neutralColor :: [.topRight, .topLeft, .bottomLeft, .bottomRight].map quadrantColor

theorem pointColor_mem (x y : Number) : pointColor x y ∈ colors := by
  rw [pointColor]
  cases Quadrant.ofPosition? x y with
  | none => exact List.mem_cons_self
  | some quadrant => cases quadrant <;> simp [colors]

-- Each style is evaluated once, for all that is asked of it. The literals are spelled out first,
-- since the kernel is slow to read their characters.

theorem label_items : ∀ style ∈ labels,
    hasWord style "text".toList = true ∧ hasWord style "ellipse".toList = false ∧
      (StyleTable.ofStyle style).contains "text".toList = true := by
  unfold labels title watermark lowLabel highLabel axisLabel pointLabel textBase
  repeat rw [String.toList_append]
  repeat rw [String.toList_ofList]
  decide

theorem border_items :
    hasWord border "text".toList = false ∧ hasWord border "ellipse".toList = false ∧
      (StyleTable.ofStyle border).contains "text".toList = false ∧
      (StyleTable.ofStyle border).contains "ellipse".toList = false ∧
      (StyleTable.ofStyle border).color? "fillColor".toList = some "#ffffff".toList ∧
      (StyleTable.ofStyle border).color? "strokeColor".toList = some "#666666".toList := by
  unfold border
  repeat rw [String.toList_ofList]
  decide

theorem divider_items :
    hasWord divider "text".toList = false ∧ hasWord divider "ellipse".toList = false ∧
      (StyleTable.ofStyle divider).find? "dashed".toList = some ['1'] ∧
      (StyleTable.ofStyle divider).color? "strokeColor".toList = some "#b0b0b0".toList := by
  unfold divider
  repeat rw [String.toList_ofList]
  decide

theorem marker_items : ∀ color ∈ colors,
    hasWord (marker color) "text".toList = false ∧
      hasWord (marker color) "ellipse".toList = true ∧
      (StyleTable.ofStyle (marker color)).contains "text".toList = false ∧
      (StyleTable.ofStyle (marker color)).contains "ellipse".toList = true ∧
      (StyleTable.ofStyle (marker color)).color? "fillColor".toList = some color ∧
      (StyleTable.ofStyle (marker color)).color? "strokeColor".toList = none := by
  unfold marker colors neutralColor
  repeat rw [String.toList_ofList]
  decide

end Style

end QuadrantChart
