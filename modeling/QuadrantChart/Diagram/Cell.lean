/-
This file makes the cells of a diagram from shapes.
-/

import QuadrantChart.Diagram.Element
import QuadrantChart.Layout.Shape

namespace QuadrantChart

/-- The place of a cell with its numbers as text. A line lacks the ends that could not be
written. -/
inductive Geometry where
  | missing
  | box (x y width height : Text)
  | line (source target : Option (Text × Text))
  deriving DecidableEq, Repr

structure Cell where
  id : Nat
  value : Text
  style : Text
  isEdge : Bool
  geometry : Geometry
  deriving DecidableEq, Repr

/-- The text of a number in a geometry. -/
def Number.geometryText (value : Number) : Except Fault Text := do
  return (← value.toDouble).writtenPlain

namespace Geometry

def pointText (x y : Number) : Except Fault (Text × Text) := do
  return (← x.geometryText, ← y.geometryText)

def boxOf (shape : Shape) : Except Fault Geometry := do
  return .box (← shape.x.geometryText) (← shape.y.geometryText) (← shape.width.geometryText)
    (← shape.height.geometryText)

/-- The geometry of a shape as far as it can be written, and why it is not complete. -/
def ofShape (shape : Shape) : Geometry × Option Fault :=
  if shape.isEdge then
    match pointText shape.x shape.y with
    | .error fault => (.line none none, some fault)
    | .ok source => match pointText shape.width shape.height with
      | .error fault => (.line (some source) none, some fault)
      | .ok target => (.line (some source) (some target), none)
  else
    match boxOf shape with
    | .error fault => (.missing, some fault)
    | .ok geometry => (geometry, none)

def pointElement (role : Text) (point : Text × Text) : Element :=
  .plain "mxPoint".toList [("x".toList, point.1), ("y".toList, point.2), ("as".toList, role)] []

/-- A box is one element, and a line holds an element for each end. -/
def elements : Geometry → List Element
  | .missing => []
  | .box x y width height =>
    [.plain "mxGeometry".toList [("x".toList, x), ("y".toList, y), ("width".toList, width),
      ("height".toList, height), ("as".toList, "geometry".toList)] []]
  | .line source target =>
    [.plain "mxGeometry".toList [("relative".toList, ['1']), ("as".toList, "geometry".toList)]
      ((source.map (pointElement "sourcePoint".toList)).toList ++
        (target.map (pointElement "targetPoint".toList)).toList)]

end Geometry

namespace Cell

/-- The cell that holds the layer. -/
def rootId : Nat := 0

/-- The cell that holds the shapes. -/
def layerId : Nat := 1

def firstShapeId : Nat := 2

/-- The mark says whether a cell is an edge or a vertex. -/
def mark (isEdge : Bool) : Text × Text :=
  if isEdge then ("edge".toList, ['1']) else ("vertex".toList, ['1'])

def attributes (cell : Cell) : Attributes :=
  [("id".toList, Text.ofNat cell.id), ("value".toList, cell.value), ("style".toList, cell.style),
    ("parent".toList, Text.ofNat layerId), mark cell.isEdge]

def element (cell : Cell) : Element :=
  .plain "mxCell".toList cell.attributes cell.geometry.elements

/-- The cells before all shapes. -/
def foundation : List Element :=
  [.plain "mxCell".toList [("id".toList, Text.ofNat rootId)] [],
    .plain "mxCell".toList
      [("id".toList, Text.ofNat layerId), ("parent".toList, Text.ofNat rootId)] []]

end Cell

end QuadrantChart
