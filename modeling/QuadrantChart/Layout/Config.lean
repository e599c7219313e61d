/-
This file defines the dimensions of a layout and when they are valid.
-/

import QuadrantChart.Number.Arithmetic

namespace QuadrantChart

/-- The canvas is a square with padding on all sides. -/
structure LayoutConfig where
  canvasSize : Number := 600
  padding : Number := 100
  titleTop : Number := 10
  titleHeight : Number := 40
  axisLabelWidth : Number := 150
  axisLabelHeight : Number := 20
  markerSize : Number := 12
  labelOffset : Number := 10
  topLabelRise : Number := 30
  deriving DecidableEq

namespace LayoutConfig

def totalSize (config : LayoutConfig) : Except Fault Number := do
  config.canvasSize.add (← Number.mul 2 config.padding)

/-- Half the side of the canvas. -/
def half (config : LayoutConfig) : Except Fault Number :=
  config.canvasSize.half

/-- The middle of the canvas in either direction. -/
def middle (config : LayoutConfig) : Except Fault Number := do
  config.padding.add (← config.half)

/-- Whether the canvas size and the padding are finite. The padding does not matter when the canvas
size is not, also when it is too large for a floating point number. -/
def isFinite (config : LayoutConfig) : Except Fault Bool := do
  if ← config.canvasSize.isFinite then config.padding.isFinite else return false

/-- The canvas size is finite and positive, and the padding is finite and not negative. -/
def validate (config : LayoutConfig) : Except Fault Unit := do
  unless ← config.isFinite do throw (.notFinite config.canvasSize config.padding)
  if config.canvasSize.le 0 then throw (.canvasNotPositive config.canvasSize)
  if config.padding.lt 0 then throw (.paddingNegative config.padding)

end LayoutConfig

end QuadrantChart
