/-
This file proves that a layout with valid dimensions never fails when they are floating point
numbers or small integers.
-/

import QuadrantChart.Proofs.Diagram.Cell
import QuadrantChart.Proofs.Layout.Shapes
import QuadrantChart.Proofs.Number.Range

namespace QuadrantChart

/-- Dimensions without large integers. -/
structure LayoutConfig.Moderate (config : LayoutConfig) : Prop where
  canvasSize : config.canvasSize.Within (2 ^ 50)
  padding : config.padding.Within (2 ^ 50)
  titleTop : config.titleTop.Within (2 ^ 50)
  titleHeight : config.titleHeight.Within (2 ^ 50)
  axisLabelWidth : config.axisLabelWidth.Within (2 ^ 50)
  axisLabelHeight : config.axisLabelHeight.Within (2 ^ 50)
  markerSize : config.markerSize.Within (2 ^ 50)
  labelOffset : config.labelOffset.Within (2 ^ 50)
  topLabelRise : config.topLabelRise.Within (2 ^ 50)

/-- Dimensions that are the usual ones but for the canvas size and the padding. -/
theorem LayoutConfig.moderate_of_within {canvasSize padding : Number}
    (canvasSmall : canvasSize.Within (2 ^ 50)) (paddingSmall : padding.Within (2 ^ 50)) :
    ({ canvasSize, padding } : LayoutConfig).Moderate where
  canvasSize := canvasSmall
  padding := paddingSmall
  titleTop := Number.within_integer (by decide)
  titleHeight := Number.within_integer (by decide)
  axisLabelWidth := Number.within_integer (by decide)
  axisLabelHeight := Number.within_integer (by decide)
  markerSize := Number.within_integer (by decide)
  labelOffset := Number.within_integer (by decide)
  topLabelRise := Number.within_integer (by decide)

/-- A shape without large integers. -/
structure Shape.Moderate (shape : Shape) : Prop where
  x : shape.x.Within (2 ^ 53)
  y : shape.y.Within (2 ^ 53)
  width : shape.width.Within (2 ^ 53)
  height : shape.height.Within (2 ^ 53)

theorem Shape.Moderate.writable {shape : Shape} (moderate : shape.Moderate) : shape.Writable :=
  have fits {number : Number} (within : number.Within (2 ^ 53)) : number.Convertible :=
    (within.mono (by decide)).convertible
  ⟨fits moderate.x, fits moderate.y, fits moderate.width, fits moderate.height⟩

namespace Layout

variable {config : LayoutConfig}

theorem shape_within {number : Number} {limit : Nat} (within : number.Within limit)
    (small : limit ≤ 2 ^ 53) : number.Within (2 ^ 53) :=
  within.mono small

/-- Both shapes of a point have a place, which consists of floating point numbers. -/
theorem pointShapes_placed (moderate : config.Moderate) (point : Point) :
    ∃ shapes, pointShapes config point = .ok shapes ∧ ∀ shape ∈ shapes, shape.Moderate := by
  have double (value : Binary64) := Number.within_double 0 value
  obtain ⟨right, scaledRight, rightWithin⟩ :=
    (double point.x).mul moderate.canvasSize (by decide)
  obtain ⟨across, placedAcross, acrossWithin⟩ := moderate.padding.add rightWithin (by decide)
  obtain ⟨up, scaledUp, upWithin⟩ := (double point.y).mul moderate.canvasSize (by decide)
  obtain ⟨under, turned, underWithin⟩ := moderate.canvasSize.sub upWithin (by decide)
  obtain ⟨down, placedDown, downWithin⟩ := moderate.padding.add underWithin (by decide)
  obtain ⟨radius, halved, radiusWithin⟩ := (moderate.markerSize.mono (by decide)).half
  obtain ⟨left, leftOfCentre, leftWithin⟩ := acrossWithin.sub radiusWithin (by decide)
  obtain ⟨top, aboveCentre, topWithin⟩ := downWithin.sub radiusWithin (by decide)
  obtain ⟨labelLeft, rightOfCentre, labelLeftWithin⟩ :=
    acrossWithin.add moderate.labelOffset (by decide)
  obtain ⟨labelTop, overCentre, labelTopWithin⟩ := downWithin.sub moderate.labelOffset (by decide)
  have size := shape_within moderate.markerSize (by decide)
  refine ⟨_, by
    simp only [pointShapes, toCanvas, Result.bind_ok, Result.pure_ok, Prod.exists, Prod.mk.injEq]
    exact ⟨across, down, ⟨right, scaledRight, across, placedAcross, up, scaledUp, under, turned,
      down, placedDown, rfl, rfl⟩, radius, halved, left, leftOfCentre, top, aboveCentre, labelLeft,
      rightOfCentre, labelTop, overCentre, rfl⟩, ?_⟩
  simp only [List.forall_mem_cons]
  refine ⟨⟨?_, ?_, size, size⟩, ⟨?_, ?_, ?_, ?_⟩, by simp⟩
  · exact shape_within leftWithin (by decide)
  · exact shape_within topWithin (by decide)
  · exact shape_within labelLeftWithin (by decide)
  · exact shape_within labelTopWithin (by decide)
  · exact shape_within moderate.axisLabelWidth (by decide)
  · exact shape_within moderate.axisLabelHeight (by decide)

theorem points_placed (moderate : config.Moderate) (points : List Point) :
    ∃ shapes, points.mapM (pointShapes config) = .ok shapes ∧
      ∀ shape ∈ shapes.flatten, shape.Moderate := by
  simp only [Result.mapM_ok]
  induction points with
  | nil => exact ⟨[], .nil, by simp⟩
  | cons point points inductionHypothesis =>
    obtain ⟨others, placed, laterModerate⟩ := inductionHypothesis
    obtain ⟨shapes, here, pointModerate⟩ := pointShapes_placed moderate point
    refine ⟨shapes :: others, .cons here placed, ?_⟩
    rw [List.flatten_cons]
    exact List.forall_mem_append.2 ⟨pointModerate, laterModerate⟩

/-- Every chart has a layout with valid dimensions, in which no integer is large. -/
theorem shapes_moderate (moderate : config.Moderate) (valid : config.validate = .ok ())
    (chart : Chart) :
    ∃ shapes, Layout.shapes config chart = .ok shapes ∧ ∀ shape ∈ shapes, shape.Moderate := by
  obtain ⟨half, halved, halfWithin⟩ := (moderate.canvasSize.mono (by decide)).half
  obtain ⟨middle, centre, middleWithin⟩ := moderate.padding.add halfWithin (by decide)
  obtain ⟨far, farEnd, farWithin⟩ := moderate.padding.add moderate.canvasSize (by decide)
  obtain ⟨below, belowMiddle, belowWithin⟩ := middleWithin.add moderate.labelOffset (by decide)
  obtain ⟨right, leftOfFar, rightWithin⟩ := farWithin.sub moderate.axisLabelWidth (by decide)
  obtain ⟨width, halfWidth, widthWithin⟩ := (moderate.axisLabelWidth.mono (by decide)).half
  obtain ⟨centred, aroundMiddle, centredWithin⟩ := middleWithin.sub widthWithin (by decide)
  obtain ⟨above, overPadding, aboveWithin⟩ := moderate.padding.sub moderate.topLabelRise (by decide)
  obtain ⟨under, pastFar, underWithin⟩ := farWithin.add moderate.labelOffset (by decide)
  obtain ⟨points, placed, pointsModerate⟩ := points_placed moderate chart.points
  refine ⟨_, by
    simp only [shapes, dividerShapes, axisShapes, LayoutConfig.half, LayoutConfig.middle,
      Result.bind_ok, Result.pure_ok]
    exact ⟨(), valid, half, halved, middle, ⟨half, halved, centre⟩, _, ⟨far, farEnd, rfl⟩, _,
      ⟨below, belowMiddle, far, farEnd, right, leftOfFar, width, halfWidth, centred, aroundMiddle,
        above, overPadding, under, pastFar, rfl⟩, points, placed, rfl⟩, ?_⟩
  have canvasSize := shape_within moderate.canvasSize (by decide)
  have padding := shape_within moderate.padding (by decide)
  have titleTop := shape_within moderate.titleTop (by decide)
  have titleHeight := shape_within moderate.titleHeight (by decide)
  have labelWidth := shape_within moderate.axisLabelWidth (by decide)
  have labelHeight := shape_within moderate.axisLabelHeight (by decide)
  have half := shape_within halfWithin (by decide)
  have middle := shape_within middleWithin (by decide)
  have far := shape_within farWithin (by decide)
  have below := shape_within belowWithin (by decide)
  have right := shape_within rightWithin (by decide)
  have centred := shape_within centredWithin (by decide)
  have above := shape_within aboveWithin (by decide)
  have under := shape_within underWithin (by decide)
  refine List.forall_mem_append.2 ⟨?_, pointsModerate⟩
  simp only [frameShapes, captionShapes, List.cons_append, List.nil_append, List.forall_mem_cons]
  exact ⟨⟨padding, titleTop, canvasSize, titleHeight⟩, ⟨padding, padding, canvasSize, canvasSize⟩,
    ⟨padding, padding, half, half⟩, ⟨middle, padding, half, half⟩, ⟨padding, middle, half, half⟩,
    ⟨middle, middle, half, half⟩, ⟨middle, padding, middle, far⟩, ⟨padding, middle, far, middle⟩,
    ⟨padding, below, labelWidth, labelHeight⟩, ⟨right, below, labelWidth, labelHeight⟩,
    ⟨centred, above, labelWidth, labelHeight⟩, ⟨centred, under, labelWidth, labelHeight⟩, by simp⟩

/-- Every chart has a layout with valid dimensions, all of whose numbers can be written. -/
theorem shapes_placed (moderate : config.Moderate) (valid : config.validate = .ok ())
    (chart : Chart) :
    ∃ shapes, Layout.shapes config chart = .ok shapes ∧ ∀ shape ∈ shapes, shape.Writable := by
  obtain ⟨shapes, placed, small⟩ := shapes_moderate moderate valid chart
  exact ⟨shapes, placed, fun shape member => (small shape member).writable⟩

end Layout

end QuadrantChart
