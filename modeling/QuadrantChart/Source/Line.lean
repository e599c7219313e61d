/-
This file reads the lines of a chart source, each of which gives at most one directive.
-/

import QuadrantChart.Source.Point

namespace QuadrantChart

/-- What a line sets in a chart, or the point that it adds. -/
inductive Directive where
  | title (text : Text)
  | xAxis (axis : Axis)
  | yAxis (axis : Axis)
  | caption (quadrant : Quadrant) (text : Text)
  | point (point : Point)
  deriving DecidableEq

/-- The word that a directive begins with. -/
inductive Keyword where
  | title
  | xAxis
  | yAxis
  | caption (quadrant : Quadrant)
  deriving DecidableEq, Repr

namespace Keyword

def text : Keyword → Text
  | .title => "title".toList
  | .xAxis => "x-axis".toList
  | .yAxis => "y-axis".toList
  | .caption .topRight => "quadrant-1".toList
  | .caption .topLeft => "quadrant-2".toList
  | .caption .bottomLeft => "quadrant-3".toList
  | .caption .bottomRight => "quadrant-4".toList

def all : List Keyword :=
  [.title, .xAxis, .yAxis, .caption .topRight, .caption .topLeft, .caption .bottomLeft,
    .caption .bottomRight]

/-- The keyword that begins a line, whatever follows it. -/
def ofLine? (line : Text) : Option Keyword :=
  all.find? fun keyword => keyword.text.isPrefixOf line

end Keyword

namespace Source

/-- The parts of a text between arrows, which are found from left to right. -/
def splitArrows : Text → List Text
  | [] => [[]]
  | '-' :: '-' :: '>' :: rest => [] :: splitArrows rest
  | char :: rest => Text.prependFirst char (splitArrows rest)

/-- The two labels around a single arrow. -/
def axis? (text : Text) : Option Axis :=
  match splitArrows text with
  | [low, high] => some ⟨Text.trim low, Text.trim high⟩
  | _ => none

/-- The directive of a keyword with the text after it. -/
def directive? (keyword : Keyword) (rest : Text) : Option Directive :=
  match keyword with
  | .title => some (.title (Text.trim rest))
  | .xAxis => (axis? rest).map .xAxis
  | .yAxis => (axis? rest).map .yAxis
  | .caption quadrant => some (.caption quadrant (Text.trim rest))

/-- What a line without blank ends is: nothing, a directive, or one of two kinds of
skipped lines. -/
inductive Line where
  | silent
  | directive (directive : Directive)
  | malformed
  | unrecognized
  deriving DecidableEq

def Line.ofDirective? : Option Directive → Line
  | some result => .directive result
  | none => .malformed

def isComment (line : Text) : Bool :=
  "%%".toList.isPrefixOf line

/-- A keyword claims a line also when its directive is malformed or when the line looks like a
point. -/
def readLine (line : Text) : Line :=
  if line.isEmpty || isComment line then .silent
  else match Keyword.ofLine? line with
  | some keyword => .ofDirective? (directive? keyword (line.drop keyword.text.length))
  | none =>
    if looksLikePoint line then .ofDirective? ((point? line).map .point) else .unrecognized

end Source

end QuadrantChart
