/-
This file says which calls of a preview draw a cell of the document of a chart.
-/

import QuadrantChart.Preview.Basic
import QuadrantChart.Proofs.Diagram.Content
import QuadrantChart.Proofs.Number.Sum

namespace QuadrantChart

open Binary64 (Same)

inductive CellKind where
  | text
  | divider
  | marker
  | border
  deriving DecidableEq, Repr

namespace Element

/-- What a cell of a chart shows. A cell with the word for texts is a text, whatever else it is. -/
def kind (cell : Element) : CellKind :=
  if (cell.attribute? "style".toList).any (Style.hasWord · "text".toList) then .text
  else if cell.attribute? "edge".toList = some ['1'] then .divider
  else if cell.isEllipse then .marker
  else .border

/-- The number that an attribute reads as. -/
def number? (element : Element) (name : Text) : Option Binary64 :=
  (element.attribute? name).bind Numeral.read?

/-- The numbers of a box, read from the geometry of a cell. -/
def ReadsBox (cell : Element) (x y width height : Binary64) : Prop :=
  ∃ geometry, cell.children = [geometry] ∧
    geometry.number? "x".toList = some x ∧ geometry.number? "y".toList = some y ∧
    geometry.number? "width".toList = some width ∧ geometry.number? "height".toList = some height

/-- The ends of a line, read from the geometry of a cell. -/
def ReadsLine (cell : Element) (x y x' y' : Binary64) : Prop :=
  ∃ geometry source target, cell.children = [geometry] ∧ geometry.children = [source, target] ∧
    source.attribute? "as".toList = some "sourcePoint".toList ∧
    source.number? "x".toList = some x ∧ source.number? "y".toList = some y ∧
    target.attribute? "as".toList = some "targetPoint".toList ∧
    target.number? "x".toList = some x' ∧ target.number? "y".toList = some y'

/-- A text is one call with the value of its cell. A text without a value is not drawn. -/
def DrawnText (cell : Element) (calls : List DrawingCall) : Prop :=
  ∃ value, cell.attribute? "value".toList = some value ∧
    if value = [] then calls = []
    else ∃ x y color size, calls = [.text x y value color size]

/-- The border is one rectangle in the box of its cell. Its far corner is one sum, rounded once,
where the box has two numbers that have been rounded before. -/
def DrawnBorder (config : LayoutConfig) (cell : Element) (calls : List DrawingCall) : Prop :=
  ∃ span lineWidth x y width height far,
    calls = [.rectangle span (some "#ffffff".toList) (some "#666666".toList) lineWidth] ∧
    cell.ReadsBox x y width height ∧ Same span.x0 x ∧ Same span.y0 y ∧
    config.padding.add config.canvasSize = .ok far ∧ far.toDouble = .ok span.x1 ∧
    far.toDouble = .ok span.y1 ∧
    (config.padding.SumsAlike config.canvasSize →
      Same span.x1 (x + width) ∧ Same span.y1 (y + height))

/-- A marker is one ellipse in the box of its cell, in the colour of its point. -/
def DrawnMarker (chart : Chart) (cell : Element) (calls : List DrawingCall) : Prop :=
  ∃ index point span lineWidth x y width height, chart.points[index]? = some point ∧
    cell.attribute? "id".toList = some (Text.ofNat (14 + 2 * index)) ∧
    calls = [.ellipse span (some (Style.pointColor (.double point.x) (.double point.y))) none
      lineWidth] ∧
    cell.ReadsBox x y width height ∧ Same span.x0 x ∧ Same span.y0 y ∧
    Same span.x1 (x + width) ∧ Same span.y1 (y + height)

/-- A divider is a run of lines in its colour from its source on. It is not drawn when its ends
coincide. -/
def DrawnDivider (cell : Element) (calls : List DrawingCall) : Prop :=
  ∃ style color x y x' y', cell.attribute? "style".toList = some style ∧
    (StyleTable.ofStyle style).color? "strokeColor".toList = some color ∧
    cell.ReadsLine x y x' y' ∧
    ((Same x x' ∧ Same y y' ∧ calls = []) ∨
      ¬(Same x x' ∧ Same y y') ∧ ∃ first rest lineWidth,
        calls = .line first color lineWidth :: rest ∧
        (∀ call ∈ rest, ∃ span, call = .line span color lineWidth) ∧
        Same first.x0 x ∧ Same first.y0 y)

/-- The calls that draw what a cell of a chart shows. -/
def DrawnAs (config : LayoutConfig) (chart : Chart) (cell : Element) (calls : List DrawingCall) :
    Prop :=
  match cell.kind with
  | .text => cell.DrawnText calls
  | .divider => cell.DrawnDivider calls
  | .marker => cell.DrawnMarker chart calls
  | .border => cell.DrawnBorder config calls

theorem HasNumber.reads {element : Element} {name : Text} {number : Number} {value : Binary64}
    (written : element.HasNumber name number) (converts : number.toDouble = .ok value) :
    ∃ read, element.number? name = some read ∧ Same value read := by
  obtain ⟨text, found, read, nearest, numeral, again, same, -⟩ := written
  cases converts.symm.trans again
  refine ⟨read, ?_, Binary64.same_symm same⟩
  rw [number?, found]
  exact numeral

end Element

def DrawingCall.isEllipse : DrawingCall → Bool
  | .ellipse _ _ _ _ => true
  | _ => false

/-- The two calls for a point: its ellipse, and the text of its label. -/
def Point.DrawnBy (point : Point) (calls : List DrawingCall) : Prop :=
  ∃ span fill outline lineWidth x y color size,
    calls = [.ellipse span fill outline lineWidth, .text x y point.label color size]

namespace Element.DrawnAs

variable {config : LayoutConfig} {chart : Chart} {cell : Element} {calls : List DrawingCall}

theorem ellipseless (drawn : cell.DrawnAs config chart calls) (other : cell.kind ≠ .marker) :
    ∀ call ∈ calls, call.isEllipse = false := by
  unfold Element.DrawnAs at drawn
  cases kind : cell.kind with
  | text =>
    rw [kind] at drawn
    obtain ⟨value, -, shown⟩ := drawn
    split at shown
    · simp [shown]
    · obtain ⟨x, y, color, size, rfl⟩ := shown
      simp [DrawingCall.isEllipse]
  | divider =>
    rw [kind] at drawn
    obtain ⟨style, color, x, y, x', y', -, -, -, shown⟩ := drawn
    rcases shown with ⟨-, -, rfl⟩ | ⟨-, first, rest, width, rfl, lines, -⟩
    · simp
    · refine List.forall_mem_cons.2 ⟨rfl, fun call member => ?_⟩
      obtain ⟨span, rfl⟩ := lines call member
      rfl
  | marker => exact absurd kind other
  | border =>
    rw [kind] at drawn
    obtain ⟨span, width, _, _, _, _, _, rfl, -⟩ := drawn
    simp [DrawingCall.isEllipse]

theorem ellipse (drawn : cell.DrawnAs config chart calls) (kind : cell.kind = .marker) :
    ∃ span fill outline lineWidth, calls = [.ellipse span fill outline lineWidth] := by
  unfold Element.DrawnAs at drawn
  rw [kind] at drawn
  obtain ⟨_, _, span, width, _, _, _, _, -, -, rfl, -⟩ := drawn
  exact ⟨span, _, _, width, rfl⟩

theorem text {value : Text} (drawn : cell.DrawnAs config chart calls) (kind : cell.kind = .text)
    (shown : cell.attribute? "value".toList = some value) (nonempty : value ≠ []) :
    ∃ x y color size, calls = [.text x y value color size] := by
  unfold Element.DrawnAs at drawn
  rw [kind] at drawn
  obtain ⟨_, found, once⟩ := drawn
  cases shown.symm.trans found
  rwa [if_neg nonempty] at once

end Element.DrawnAs

end QuadrantChart
