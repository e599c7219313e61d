/-
This file defines the shapes of a diagram and their styles.
-/

import QuadrantChart.Chart.Basic

namespace QuadrantChart

/-- A kind is a name, which can be any text. -/
structure ShapeKind where
  name : Text
  deriving DecidableEq, Repr

namespace ShapeKind

def vertex : ShapeKind :=
  ⟨"vertex".toList⟩

def edge : ShapeKind :=
  ⟨"edge".toList⟩

end ShapeKind

/-- A vertex lies in the box at `(x, y)` with its width and height. An edge leads from `(x, y)` to
`(width, height)`. -/
structure Shape where
  value : Text
  style : Text
  x : Number
  y : Number
  width : Number
  height : Number
  kind : ShapeKind := .vertex
  deriving DecidableEq

/-- Shapes of any other kind are vertices. -/
def Shape.isEdge (shape : Shape) : Bool :=
  shape.kind = .edge

namespace Style

def textBase : Text :=
  ("text;html=1;strokeColor=none;fillColor=none;align=center;verticalAlign=middle;" ++
    "whiteSpace=wrap;rounded=0;").toList

def title : Text :=
  textBase ++ "fontSize=24;fontStyle=1".toList

def border : Text :=
  "rounded=0;whiteSpace=wrap;html=1;fillColor=#ffffff;strokeColor=#666666;".toList

def watermark : Text :=
  textBase ++ "fontSize=20;fontColor=#e0e0e0;fontStyle=1;".toList

def divider : Text :=
  "endArrow=none;html=1;strokeWidth=2;strokeColor=#b0b0b0;dashed=1;".toList

def axisLabel : Text :=
  textBase ++ "fontSize=12;fontStyle=2;fontColor=#333333;".toList

/-- A later alignment replaces the one of all texts. -/
def lowLabel : Text :=
  axisLabel ++ "align=left;".toList

def highLabel : Text :=
  axisLabel ++ "align=right;".toList

def pointLabel : Text :=
  ("text;html=1;strokeColor=none;fillColor=none;align=left;verticalAlign=middle;" ++
    "whiteSpace=wrap;rounded=0;fontSize=11;fontColor=#000000;fontStyle=1").toList

def marker (color : Text) : Text :=
  "ellipse;whiteSpace=wrap;html=1;aspect=fixed;fillColor=".toList ++ color ++
    ";strokeColor=none;".toList

/-- The colour of the markers in a quadrant. -/
def quadrantColor : Quadrant → Text
  | .topRight => "#28a745".toList
  | .topLeft => "#007bff".toList
  | .bottomLeft => "#6c757d".toList
  | .bottomRight => "#ffc107".toList

def neutralColor : Text :=
  "#999999".toList

/-- The colour of a marker, which is neutral where no quadrant is. -/
def pointColor (x y : Number) : Text :=
  match Quadrant.ofPosition? x y with
  | some quadrant => quadrantColor quadrant
  | none => neutralColor

end Style

end QuadrantChart
