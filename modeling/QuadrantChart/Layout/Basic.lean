/-
This file places the shapes of a chart on the canvas, in the order in which they are stacked.
-/

import QuadrantChart.Layout.Config
import QuadrantChart.Layout.Shape

namespace QuadrantChart

namespace Layout

/-- The place of a position in the unit square on the canvas, whose second coordinate grows
downward. -/
def toCanvas (config : LayoutConfig) (x y : Number) : Except Fault (Number × Number) := do
  let size := config.canvasSize
  let across ← config.padding.add (← x.mul size)
  let down ← config.padding.add (← size.sub (← y.mul size))
  return (across, down)

def vertex (value style : Text) (x y width height : Number) : Shape :=
  { value, style, x, y, width, height }

def edge (style : Text) (source target : Number × Number) : Shape :=
  { value := [], style, x := source.1, y := source.2, width := target.1, height := target.2
    kind := .edge }

/-- The marker of a point, centred on its place, and the label beside it. -/
def pointShapes (config : LayoutConfig) (point : Point) : Except Fault (List Shape) := do
  let (x, y) ← toCanvas config (.double point.x) (.double point.y)
  let radius ← config.markerSize.half
  let color := Style.pointColor (.double point.x) (.double point.y)
  let marker := vertex [] (Style.marker color) (← x.sub radius) (← y.sub radius) config.markerSize
    config.markerSize
  let label := vertex point.label Style.pointLabel (← x.add config.labelOffset)
    (← y.sub config.labelOffset) config.axisLabelWidth config.axisLabelHeight
  return [marker, label]

/-- The title above the canvas and the border around it. -/
def frameShapes (config : LayoutConfig) (title : Text) : List Shape :=
  [vertex title Style.title config.padding config.titleTop config.canvasSize config.titleHeight,
    vertex [] Style.border config.padding config.padding config.canvasSize config.canvasSize]

/-- The captions of the quadrants, the left ones before the right ones in the upper half and also
below. -/
def captionShapes (config : LayoutConfig) (captions : Captions) (half middle : Number) :
    List Shape :=
  let caption (value : Text) (x y : Number) := vertex value Style.watermark x y half half
  [caption captions.topLeft config.padding config.padding,
    caption captions.topRight middle config.padding,
    caption captions.bottomLeft config.padding middle,
    caption captions.bottomRight middle middle]

/-- The lines between the quadrants, first the one from top to bottom. -/
def dividerShapes (config : LayoutConfig) (middle : Number) : Except Fault (List Shape) := do
  let far ← config.padding.add config.canvasSize
  return [edge Style.divider (middle, config.padding) (middle, far),
    edge Style.divider (config.padding, middle) (far, middle)]

def axisShapes (config : LayoutConfig) (xAxis yAxis : Axis) (middle : Number) :
    Except Fault (List Shape) := do
  let width := config.axisLabelWidth
  let label (value style : Text) (x y : Number) :=
    vertex value style x y width config.axisLabelHeight
  let below ← middle.add config.labelOffset
  let far ← config.padding.add config.canvasSize
  let left := label xAxis.low Style.lowLabel config.padding below
  let right := label xAxis.high Style.highLabel (← far.sub width) below
  let centred ← middle.sub (← width.half)
  let top := label yAxis.high Style.axisLabel centred (← config.padding.sub config.topLabelRise)
  let bottom := label yAxis.low Style.axisLabel centred (← far.add config.labelOffset)
  return [left, right, top, bottom]

/-- All shapes of a chart. Dimensions that are not valid are refused before anything else. -/
def shapes (config : LayoutConfig) (chart : Chart) : Except Fault (List Shape) := do
  config.validate
  let half ← config.half
  let middle ← config.middle
  let dividers ← dividerShapes config middle
  let labels ← axisShapes config chart.xAxis chart.yAxis middle
  let points ← chart.points.mapM (pointShapes config)
  return frameShapes config chart.title ++ captionShapes config chart.captions half middle ++
    dividers ++ labels ++ points.flatten

end Layout

end QuadrantChart
