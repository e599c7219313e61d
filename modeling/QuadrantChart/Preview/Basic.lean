/-
This file draws shapes as a sequence of calls on a white square page, and measures the ink of texts.
-/

import QuadrantChart.Binary64.Length
import QuadrantChart.Binary64.Reading
import QuadrantChart.Layout.Basic
import QuadrantChart.Preview.Dash
import QuadrantChart.Preview.StyleTable
import QuadrantChart.Source.Basic

namespace QuadrantChart

/-- The box that the ink of a text fills, seen from the place where the text is drawn. -/
structure InkBox where
  left : Number
  top : Number
  right : Number
  bottom : Number
  deriving DecidableEq

namespace InkBox

/-- Every character is five eighths of the font size wide, and the ink is three quarters
of it high. -/
def ofText (size : Int) (text : Text) : Except Fault InkBox := do
  let top : Number := .integer (size / 4)
  let advance ← Number.mul (.double (5 / 8)) (.integer size)
  let right ← Number.add 1 (← advance.mul (.integer text.length))
  let bottom ← top.add (← Number.mul (.double (3 / 4)) (.integer size))
  return { left := 1, top, right, bottom }

def width (box : InkBox) : Except Fault Number :=
  box.right.sub box.left

def height (box : InkBox) : Except Fault Number :=
  box.bottom.sub box.top

end InkBox

/-- The corners of a box, or the ends of a line. -/
structure Span where
  x0 : Binary64
  y0 : Binary64
  x1 : Binary64
  y1 : Binary64
  deriving DecidableEq

inductive DrawingCall where
  | text (x y : Binary64) (text color : Text) (size : Int)
  | line (span : Span) (color : Text) (width : Int)
  | rectangle (span : Span) (fill outline : Option Text) (width : Int)
  | ellipse (span : Span) (fill outline : Option Text) (width : Int)
  deriving DecidableEq

/-- The calls made so far, and why no more were made when something failed. -/
structure Drawing where
  calls : List DrawingCall := []
  fault : Option Fault := none
  deriving DecidableEq

namespace Drawing

/-- The second drawing goes on where the first one ended, unless the first one failed. -/
def append (first second : Drawing) : Drawing :=
  match first.fault with
  | some _ => first
  | none => { second with calls := first.calls ++ second.calls }

instance : Append Drawing := ⟨append⟩

def ofCalls : Except Fault (List DrawingCall) → Drawing
  | .ok calls => { calls }
  | .error fault => { fault := some fault }

end Drawing

namespace Preview

def black : Text :=
  "#000000".toList

def span (start stop : Number × Number) : Except Fault Span := do
  return ⟨← start.1.toDouble, ← start.2.toDouble, ← stop.1.toDouble, ← stop.2.toDouble⟩

/-- The numeral of a style item times the scale, rounded, and at least one. -/
def measure (style : StyleTable) (key : Text) (missing : Binary64) (scale : Number) :
    Except Fault Int := do
  let value ← match style.find? key with
    | none => pure missing
    | some numeral => match Numeral.read? numeral with
      | some value => pure value
      | none => throw (.notNumeral numeral)
  return max 1 (← (← Number.mul (.double value) scale).round)

/-- A line that is divided into dashes, with how far it leads across and down. -/
structure DashedLine where
  start : Number × Number
  across : Binary64
  down : Binary64
  loop : Dash.Loop
  deriving DecidableEq

namespace DashedLine

def between (start stop : Number × Number) (scale : Number) : Except Fault DashedLine := do
  let dash ← (← Number.mul (.double 6) scale).toDouble
  let gap ← (← Number.mul (.double 4) scale).toDouble
  let across ← (← stop.1.sub start.1).toDouble
  let down ← (← stop.2.sub start.2).toDouble
  return { start, across, down, loop := ⟨Binary64.length across down, dash, gap⟩ }

/-- The point that is as far along a line as a position is from its start. -/
def place (line : DashedLine) (position : Binary64) : Except Fault (Number × Number) := do
  return (← line.start.1.add (.double (line.across / line.loop.limit * position)),
    ← line.start.2.add (.double (line.down / line.loop.limit * position)))

/-- A dash leads from one position to another. -/
def dash (line : DashedLine) (color : Text) (width : Int) (interval : Binary64 × Binary64) :
    Except Fault DrawingCall := do
  return .line (← span (← line.place interval.1) (← line.place interval.2)) color width

/-- The dashes of a line, of which each one is yet to be placed. -/
def dashes (line : DashedLine) (color : Text) (width : Int) :
    Except Fault (List (Except Fault DrawingCall)) := do
  if line.loop.limit.eq 0 then return []
  match line.loop.intervals? 0 with
  | none =>
    -- Also endless dashes fail at once when the start of the line is too large.
    let _ ← line.place 0
    throw .unending
  | some intervals => return intervals.map (line.dash color width)

end DashedLine

def dashedCalls (start stop : Number × Number) (color : Text) (width : Int) (scale : Number) :
    Except Fault (List DrawingCall) := do
  let line ← DashedLine.between start stop scale
  (← line.dashes color width).mapM id

/-- The place of a text along the box of its shape. -/
def alignedStart (style : StyleTable) (start width textWidth : Number) : Except Fault Number :=
  match style.find? "align".toList with
  | some align =>
    if align = "left".toList then .ok start
    else if align = "right".toList then do (← start.add width).sub textWidth
    else centred
  | none => centred
where
  centred : Except Fault Number := do
    start.add (← (← width.sub textWidth).half)

/-- The call for the text of a shape in letters of a size. The text is placed by the box of its
ink. -/
def textCall (shape : Shape) (style : StyleTable) (scale : Number) (size : Int) :
    Except Fault DrawingCall := do
  let ink ← InkBox.ofText size shape.value
  let textWidth ← ink.width
  let textHeight ← ink.height
  let x ← alignedStart style (← shape.x.mul scale) (← shape.width.mul scale) textWidth
  let y ← (← shape.y.mul scale).add (← (← (← shape.height.mul scale).sub textHeight).half)
  let color := (style.color? "fontColor".toList).getD black
  return .text (← (← x.sub ink.left).toDouble) (← (← y.sub ink.top).toDouble) shape.value color
    size

/-- An empty text is not drawn. -/
def textCalls (shape : Shape) (style : StyleTable) (scale : Number) :
    Except Fault (List DrawingCall) := do
  if shape.value.isEmpty then return []
  let size ← measure style "fontSize".toList 12 scale
  return [← textCall shape style scale size]

def edgeCalls (shape : Shape) (style : StyleTable) (width : Int) (scale : Number) :
    Except Fault (List DrawingCall) := do
  let start := (← shape.x.mul scale, ← shape.y.mul scale)
  let stop := (← shape.width.mul scale, ← shape.height.mul scale)
  let color := (style.color? "strokeColor".toList).getD black
  if style.find? "dashed".toList = some ['1'] then dashedCalls start stop color width scale
  else return [.line (← span start stop) color width]

def boxCalls (shape : Shape) (style : StyleTable) (width : Int) (scale : Number) :
    Except Fault (List DrawingCall) := do
  let start := (← shape.x.mul scale, ← shape.y.mul scale)
  let stop := (← (← shape.x.add shape.width).mul scale, ← (← shape.y.add shape.height).mul scale)
  let fill := style.color? "fillColor".toList
  let outline := style.color? "strokeColor".toList
  let box ← span start stop
  if style.contains "ellipse".toList then return [.ellipse box fill outline width]
  else return [.rectangle box fill outline width]

/-- An edge is a line, a text is only its value, and any other shape is a box with its value. -/
def drawShape (scale : Number) (shape : Shape) : Drawing :=
  let style := StyleTable.ofStyle shape.style
  match measure style "strokeWidth".toList 1 scale with
  | .error fault => { fault := some fault }
  | .ok width =>
    if shape.isEdge then .ofCalls (edgeCalls shape style width scale)
    else
      let text := Drawing.ofCalls (textCalls shape style scale)
      if style.contains "text".toList then text
      else Drawing.ofCalls (boxCalls shape style width scale) ++ text

/-- Shapes are drawn in order up to the first failure. -/
def drawShapes (scale : Number) : List Shape → Drawing
  | [] => {}
  | shape :: shapes => drawShape scale shape ++ drawShapes scale shapes

/-- The side of the page, which shows the canvas with its padding. -/
def pageSide (config : LayoutConfig) (scale : Number) : Except Fault Int := do
  if scale.le 0 then throw .scaleNotPositive
  return max 1 (← (← (← config.totalSize).mul scale).round)

end Preview

/-- A page and what was drawn on it. -/
structure Preview where
  side : Int
  drawing : Drawing
  deriving DecidableEq

namespace Preview

def ofShapes (shapes : List Shape) (config : LayoutConfig) (scale : Number) :
    Except Fault Preview := do
  return { side := ← pageSide config scale, drawing := drawShapes scale shapes }

/-- The preview of the chart that a source describes. -/
def ofSource (source : Text) (config : LayoutConfig) (scale : Number) : Except Fault Preview := do
  ofShapes (← Layout.shapes config (Source.chart source)) config scale

/-- The most digits that the side of a page may have in an image file. -/
def digitLimit : Nat :=
  4300

/-- The content of the image file, or why the drawing failed or the side cannot be written. -/
def image (preview : Preview) : Except Fault Text :=
  match preview.drawing.fault with
  | some fault => .error fault
  | none =>
    let side := Text.ofInt preview.side
    if side.length ≤ digitLimit then
      .ok ("PNG ".toList ++ side ++ 'x' :: side ++
        ' ' :: Text.ofNat preview.drawing.calls.length)
    else .error (.tooManyDigits digitLimit)

end Preview

end QuadrantChart
