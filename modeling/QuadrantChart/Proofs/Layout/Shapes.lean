/-
This file says which shapes a chart is laid out as, and which of them are ellipses.
-/

import QuadrantChart.Layout.Basic
import QuadrantChart.Proofs.Layout.Style
import QuadrantChart.Proofs.Result

namespace QuadrantChart

namespace Number

@[simp]
theorem toDouble_double (value : Binary64) : toDouble (.double value) = .ok value :=
  rfl

@[simp]
theorem sub_double (left right : Binary64) :
    sub (.double left) (.double right) = .ok (.double (left - right)) :=
  rfl

@[simp]
theorem mul_double (left right : Binary64) :
    mul (.double left) (.double right) = .ok (.double (left * right)) :=
  rfl

end Number

namespace Layout

/-- The numbers that place the shapes of a point. -/
structure PointPlace (config : LayoutConfig) (point : Point) where
  across : Number
  down : Number
  radius : Number
  left : Number
  top : Number
  labelLeft : Number
  labelTop : Number
  centre : toCanvas config (.double point.x) (.double point.y) = .ok (across, down)
  halved : config.markerSize.half = .ok radius
  leftOfCentre : across.sub radius = .ok left
  aboveCentre : down.sub radius = .ok top
  rightOfCentre : across.add config.labelOffset = .ok labelLeft
  overCentre : down.sub config.labelOffset = .ok labelTop

variable {config : LayoutConfig} {point : Point}

def PointPlace.marker (place : PointPlace config point) : Shape :=
  vertex [] (Style.marker (Style.pointColor (.double point.x) (.double point.y))) place.left
    place.top config.markerSize config.markerSize

def PointPlace.label (place : PointPlace config point) : Shape :=
  vertex point.label Style.pointLabel place.labelLeft place.labelTop config.axisLabelWidth
    config.axisLabelHeight

theorem PointPlace.label_style (place : PointPlace config point) :
    place.label.style = Style.pointLabel := by
  simp only [label, vertex]

theorem PointPlace.label_style_mem (place : PointPlace config point) :
    place.label.style ∈ Style.labels := by
  simp [place.label_style]

theorem pointShapes_ok {shapes : List Shape} (placed : pointShapes config point = .ok shapes) :
    ∃ place : PointPlace config point, shapes = [place.marker, place.label] := by
  simp only [pointShapes, Result.bind_ok, Result.pure_ok, Prod.exists] at placed
  obtain ⟨across, down, centre, radius, halved, left, leftOfCentre, top, aboveCentre, labelLeft,
    rightOfCentre, labelTop, overCentre, equal⟩ := placed
  exact ⟨⟨across, down, radius, left, top, labelLeft, labelTop, centre, halved, leftOfCentre,
    aboveCentre, rightOfCentre, overCentre⟩, equal.symm⟩

/-- The numbers that place all shapes but those of the points. -/
structure FramePlace (config : LayoutConfig) where
  half : Number
  middle : Number
  far : Number
  below : Number
  right : Number
  centred : Number
  above : Number
  under : Number
  halved : config.half = .ok half
  centre : config.middle = .ok middle
  farEnd : config.padding.add config.canvasSize = .ok far

def FramePlace.dividers (place : FramePlace config) : List Shape :=
  [edge Style.divider (place.middle, config.padding) (place.middle, place.far),
    edge Style.divider (config.padding, place.middle) (place.far, place.middle)]

def FramePlace.labels (place : FramePlace config) (xAxis yAxis : Axis) : List Shape :=
  let label (value style : Text) (x y : Number) :=
    vertex value style x y config.axisLabelWidth config.axisLabelHeight
  [label xAxis.low Style.lowLabel config.padding place.below,
    label xAxis.high Style.highLabel place.right place.below,
    label yAxis.high Style.axisLabel place.centred place.above,
    label yAxis.low Style.axisLabel place.centred place.under]

/-- The shapes in front of those of the points. -/
def FramePlace.shapes (place : FramePlace config) (chart : Chart) : List Shape :=
  frameShapes config chart.title ++ captionShapes config chart.captions place.half place.middle ++
    place.dividers ++ place.labels chart.xAxis chart.yAxis

/-- The shapes of the frame are texts, a border and dividers. -/
theorem FramePlace.shapes_style (place : FramePlace config) (chart : Chart) :
    ∀ shape ∈ place.shapes chart,
      shape.style ∈ Style.labels ∨ shape.style = Style.border ∨ shape.style = Style.divider := by
  simp [shapes, frameShapes, captionShapes, dividers, labels, vertex, edge]

/-- A layout consists of twelve shapes, and of two more for each point. -/
theorem shapes_ok {chart : Chart} {result : List Shape}
    (placed : shapes config chart = .ok result) :
    config.validate = .ok () ∧ ∃ (place : FramePlace config) (points : List (List Shape)),
      List.Forall₂ (fun point shapes => ∃ place : PointPlace config point,
        shapes = [place.marker, place.label]) chart.points points ∧
      result = place.shapes chart ++ points.flatten := by
  simp only [shapes, dividerShapes, axisShapes, Result.bind_ok, Result.pure_ok,
    Result.mapM_ok] at placed
  obtain ⟨_, valid, half, halved, middle, centre, dividers, ⟨far, farEnd, rfl⟩, labels, sides,
    points, each, equal⟩ := placed
  obtain ⟨below, -, sameFar, again, right, -, width, -, centred, -, above, -, under, -, rfl⟩ :=
    sides
  cases farEnd.symm.trans again
  refine ⟨valid, ⟨half, middle, far, below, right, centred, above, under, halved, centre, farEnd⟩,
    points, ?_, equal.symm⟩
  exact each.imp fun point shapes => pointShapes_ok

/-- The shapes of points in their order, two for each. -/
theorem points_at {points : List Point} {shapes : List (List Shape)}
    (each : List.Forall₂ (fun point shapes => ∃ place : PointPlace config point,
      shapes = [place.marker, place.label]) points shapes) :
    shapes.flatten.length = 2 * points.length ∧
      ∀ (index : Nat) (point : Point), points[index]? = some point →
        ∃ place : PointPlace config point,
          shapes.flatten[2 * index]? = some place.marker ∧
            shapes.flatten[2 * index + 1]? = some place.label := by
  induction each with
  | nil => simp
  | cons first others inductionHypothesis =>
    obtain ⟨place, rfl⟩ := first
    obtain ⟨count, placed⟩ := inductionHypothesis
    constructor
    · simp only [List.flatten_cons, List.length_append, List.length_cons, List.length_nil, count]
      omega
    · intro index point found
      cases index with
      | zero =>
        cases found
        exact ⟨place, rfl, rfl⟩
      | succ index => exact placed index point found

/-- The shapes of points have the labels of the points, each behind the empty text of a marker. -/
theorem points_values {points : List Point} {shapes : List (List Shape)}
    (each : List.Forall₂ (fun point shapes => ∃ place : PointPlace config point,
      shapes = [place.marker, place.label]) points shapes) :
    shapes.flatten.map Shape.value = points.flatMap fun point => [[], point.label] := by
  induction each with
  | nil => rfl
  | cons first others inductionHypothesis =>
    obtain ⟨place, rfl⟩ := first
    rw [List.flatten_cons, List.map_append, inductionHypothesis]
    rfl

/-- No shape of the frame is an ellipse. -/
theorem FramePlace.shapes_ellipseless (place : FramePlace config) (chart : Chart) :
    ∀ shape ∈ place.shapes chart, Style.hasWord shape.style "ellipse".toList = false := by
  intro shape member
  rcases place.shapes_style chart shape member with label | border | divider
  · exact (Style.label_items _ label).2.1
  · rw [border]
    exact Style.border_items.2.1
  · rw [divider]
    exact Style.divider_items.2.1

/-- The shapes of a chart have one ellipse for each point. -/
theorem shapes_ellipses {chart : Chart} {result : List Shape}
    (placed : shapes config chart = .ok result) :
    result.countP (fun shape => Style.hasWord shape.style "ellipse".toList) =
      chart.points.length := by
  obtain ⟨-, frame, points, each, rfl⟩ := shapes_ok placed
  have none : (frame.shapes chart).countP
      (fun shape => Style.hasWord shape.style "ellipse".toList) = 0 := by
    rw [List.countP_eq_zero]
    intro shape member
    rw [frame.shapes_ellipseless chart shape member]
    exact Bool.false_ne_true
  rw [List.countP_append, none, Nat.zero_add]
  clear placed
  generalize chart.points = all at each
  induction each with
  | nil => rfl
  | cons first others inductionHypothesis =>
    obtain ⟨place, rfl⟩ := first
    have marker : Style.hasWord place.marker.style "ellipse".toList = true :=
      (Style.marker_items _ (Style.pointColor_mem _ _)).2.1
    have label : Style.hasWord place.label.style "ellipse".toList = false := by
      rw [place.label_style]
      exact (Style.label_items _ (by simp)).2.1
    simp only [List.flatten_cons, List.countP_append, inductionHypothesis, List.countP_cons,
      List.countP_nil, marker, label, List.length_cons, if_true, Bool.false_eq_true, if_false]
    omega

end Layout

end QuadrantChart
