/-
This file proves which valid dimensions lay out every chart in finite numbers.
-/

import QuadrantChart.Proofs.Layout.Extent
import QuadrantChart.Proofs.Layout.Placement
import QuadrantChart.Proofs.Number.Shift

namespace QuadrantChart

/-- A shape whose numbers are all finite. -/
def Shape.IsFinite (shape : Shape) : Prop :=
  ∀ number ∈ [shape.x, shape.y, shape.width, shape.height], number.isFinite = .ok true

/-- Valid dimensions have a finite canvas size and a finite padding. -/
theorem LayoutConfig.validate_finite {config : LayoutConfig} (valid : config.validate = .ok ()) :
    config.canvasSize.isFinite = .ok true ∧ config.padding.isFinite = .ok true := by
  obtain ⟨finite, isFinite, checked⟩ := Result.bind_ok.1 valid
  cases finite with
  | false => cases checked
  | true => exact isFinite_ok isFinite

namespace Layout

variable {config : LayoutConfig} {chart : Chart} {point : Point}

/-- The sums that place the labels of the axes. -/
structure FramePlace.Sums (place : FramePlace config) : Prop where
  belowMiddle : place.middle.add config.labelOffset = .ok place.below
  leftOfFar : place.far.sub config.axisLabelWidth = .ok place.right
  aroundMiddle : ∃ width, config.axisLabelWidth.half = .ok width ∧
    place.middle.sub width = .ok place.centred
  overPadding : config.padding.sub config.topLabelRise = .ok place.above
  pastFar : place.far.add config.labelOffset = .ok place.under

theorem pointShapes_iff {shapes : List Shape} :
    pointShapes config point = .ok shapes ↔
      ∃ place : PointPlace config point, shapes = [place.marker, place.label] := by
  refine ⟨pointShapes_ok, ?_⟩
  rintro ⟨place, rfl⟩
  simp only [pointShapes, Result.bind_ok, Result.pure_ok, Prod.exists]
  exact ⟨_, _, place.centre, _, place.halved, _, place.leftOfCentre, _, place.aboveCentre, _,
    place.rightOfCentre, _, place.overCentre, rfl⟩

/-- What a layout consists of. -/
theorem shapes_iff {result : List Shape} :
    shapes config chart = .ok result ↔
      config.validate = .ok () ∧ ∃ (place : FramePlace config) (points : List (List Shape)),
        place.Sums ∧
        List.Forall₂ (fun point shapes => ∃ place : PointPlace config point,
          shapes = [place.marker, place.label]) chart.points points ∧
        result = place.shapes chart ++ points.flatten := by
  simp only [shapes, dividerShapes, axisShapes, Result.bind_ok, Result.pure_ok, Result.mapM_ok,
    pointShapes_iff]
  constructor
  · rintro ⟨_, valid, half, halved, middle, centre, dividers, ⟨far, farEnd, rfl⟩, labels,
      ⟨below, belowMiddle, again, sameFar, right, leftOfFar, width, halfWidth, centred,
        aroundMiddle, above, overPadding, under, pastFar, rfl⟩, points, each, equal⟩
    cases farEnd.symm.trans sameFar
    exact ⟨valid, ⟨half, middle, far, below, right, centred, above, under, halved, centre, farEnd⟩,
      points, ⟨belowMiddle, leftOfFar, ⟨width, halfWidth, aroundMiddle⟩, overPadding, pastFar⟩,
      each, equal.symm⟩
  · rintro ⟨valid, place, points, sums, each, rfl⟩
    obtain ⟨width, halfWidth, aroundMiddle⟩ := sums.aroundMiddle
    exact ⟨(), valid, _, place.halved, _, place.centre, _, ⟨_, place.farEnd, rfl⟩, _,
      ⟨_, sums.belowMiddle, _, place.farEnd, _, sums.leftOfFar, _, halfWidth, _, aroundMiddle, _,
        sums.overPadding, _, sums.pastFar, rfl⟩, points, each, rfl⟩

/-- The numbers of the shapes in front of those of the points. -/
def FramePlace.numbers (place : FramePlace config) : List Number :=
  [config.padding, config.titleTop, config.canvasSize, config.titleHeight, place.half, place.middle,
    place.far, place.below, place.right, place.centred, place.above, place.under,
    config.axisLabelWidth, config.axisLabelHeight]

/-- The numbers of the shapes of a point. -/
def PointPlace.numbers (place : PointPlace config point) : List Number :=
  [place.left, place.top, place.labelLeft, place.labelTop, config.markerSize,
    config.axisLabelWidth, config.axisLabelHeight]

/-- The texts of a chart do not matter to the numbers of its frame. -/
theorem FramePlace.shapes_finite (place : FramePlace config) (chart : Chart) :
    (∀ shape ∈ place.shapes chart, shape.IsFinite) ↔
      ∀ number ∈ place.numbers, number.isFinite = .ok true := by
  simp only [shapes, frameShapes, captionShapes, dividers, labels, numbers, Shape.IsFinite, vertex,
    edge, List.cons_append, List.nil_append, List.forall_mem_cons]
  tauto

theorem PointPlace.shapes_finite (place : PointPlace config point) :
    (∀ shape ∈ [place.marker, place.label], shape.IsFinite) ↔
      ∀ number ∈ place.numbers, number.isFinite = .ok true := by
  simp only [marker, label, numbers, Shape.IsFinite, vertex, List.forall_mem_cons]
  tauto

/-- The padding and the canvas size as floating point numbers. -/
structure Canvas (config : LayoutConfig) where
  padding : Binary64
  size : Binary64
  near : Nat
  side : Nat
  paddingDouble : config.padding.toDouble = .ok padding
  sizeDouble : config.canvasSize.toDouble = .ok size
  paddingAmount : padding.IsAmount near
  sideAmount : config.canvasSize.IsAmount side

namespace Canvas

theorem of_valid (valid : config.validate = .ok ()) : Nonempty (Canvas config) := by
  obtain ⟨side, padding, sideAmount, paddingAmount⟩ := LayoutConfig.validate_amounts valid
  obtain ⟨sizeFinite, paddingFinite⟩ := LayoutConfig.validate_finite valid
  obtain ⟨_, sizeDouble, -⟩ := Number.isFinite_ok.1 sizeFinite
  obtain ⟨_, paddingDouble, -⟩ := Number.isFinite_ok.1 paddingFinite
  exact ⟨_, _, _, _, paddingDouble, sizeDouble, paddingAmount.toDouble paddingDouble, sideAmount⟩

variable (canvas : Canvas config)

def reach : Nat :=
  Binary64.roundedQuotient canvas.side 1

theorem sizeAmount : canvas.size.IsAmount canvas.reach :=
  canvas.sideAmount.toDouble canvas.sizeDouble

/-- Whether the far end of the canvas is finite. -/
def IsFinite : Prop :=
  (canvas.padding + canvas.size).isFinite = true

/-- The far end of the canvas. -/
def far : Nat :=
  Binary64.roundedQuotient (canvas.near + canvas.reach) 1

theorem toCanvas_doubles (x y : Binary64) :
    toCanvas config (.double x) (.double y) = .ok (.double (canvas.padding + x * canvas.size),
      .double (canvas.padding + (canvas.size - y * canvas.size))) := by
  have scaled (part : Binary64) :
      (Number.double part).mul config.canvasSize = .ok (.double (part * canvas.size)) :=
    Number.combine_left_ok.2 ⟨_, canvas.sizeDouble, rfl⟩
  have turned (part : Binary64) :
      config.canvasSize.sub (.double part) = .ok (.double (canvas.size - part)) :=
    Number.combine_right_ok.2 ⟨_, canvas.sizeDouble, rfl⟩
  have padded (part : Binary64) :
      config.padding.add (.double part) = .ok (.double (canvas.padding + part)) :=
    Number.combine_right_ok.2 ⟨_, canvas.paddingDouble, rfl⟩
  simp only [toCanvas, Result.bind_ok, Result.pure_ok]
  exact ⟨_, scaled x, _, padded _, _, scaled y, _, turned _, _, padded _, rfl⟩

/-- A place in the unit square lies before the far end of the canvas. -/
theorem inside_amounts (finite : canvas.IsFinite) (inside : point.InSquare) :
    ∃ across down, toCanvas config (.double point.x) (.double point.y) =
        .ok (.double across, .double down) ∧
      (∃ units ≤ canvas.far, across.IsAmount units) ∧
      ∃ units ≤ canvas.far, down.IsAmount units := by
  obtain ⟨_, xAmount, xInside⟩ := inside.x.amount
  obtain ⟨_, yAmount, yInside⟩ := inside.y.amount
  obtain ⟨_, rightOrder, right⟩ := xAmount.part xInside canvas.sizeAmount
  obtain ⟨_, upOrder, up⟩ := yAmount.part yInside canvas.sizeAmount
  obtain ⟨_, underOrder, under⟩ := canvas.sizeAmount.sub_le up upOrder
  exact ⟨_, _, canvas.toCanvas_doubles _ _,
    canvas.paddingAmount.add_le right canvas.sizeAmount rightOrder finite,
    canvas.paddingAmount.add_le under canvas.sizeAmount underOrder finite⟩

/-- The lower right corner of the unit square lies at the far end of the canvas. -/
theorem corner_amounts (finite : canvas.IsFinite) :
    ∃ across down, toCanvas config (.double 1) (.double 0) = .ok (.double across, .double down) ∧
      across.IsAmount canvas.far ∧ down.IsAmount canvas.far := by
  have below := canvas.paddingAmount.add_below canvas.sizeAmount finite
  have full : (canvas.size - 0 * canvas.size).IsAmount canvas.reach := by
    have whole := canvas.sizeAmount.sub canvas.sizeAmount.none_of (Nat.zero_le _)
    rwa [Nat.sub_zero, canvas.sizeAmount.rounded] at whole
  refine ⟨_, _, canvas.toCanvas_doubles _ _, ?_, canvas.paddingAmount.add_amount full below⟩
  rw [Binary64.one_mul]
  exact canvas.paddingAmount.add_amount canvas.sizeAmount below

/-- A point in the corner has finite numbers only before a finite far end. -/
theorem finite_of_corner {label : Text} (corner : PointPlace config ⟨label, 1, 0⟩)
    (finite : ∀ number ∈ corner.numbers, number.isFinite = .ok true) : canvas.IsFinite := by
  have left := finite corner.left (List.mem_cons_self ..)
  have leftOfCentre := corner.leftOfCentre
  have centre := (canvas.toCanvas_doubles 1 0).symm.trans corner.centre
  obtain ⟨across, -⟩ := Prod.mk.inj (Except.ok.inj centre)
  rw [← across] at leftOfCentre
  obtain ⟨radius, -, shifted⟩ := Number.combine_left_ok.1 leftOfCentre
  rw [← shifted, Number.isFinite_double] at left
  have far := (Binary64.finite_of_add left).1
  rwa [Binary64.one_mul] at far

end Canvas

/-- The numbers of every point are finite with those of a point in the corner. -/
theorem Canvas.point_finite (canvas : Canvas config) {label : Text}
    (corner : PointPlace config ⟨label, 1, 0⟩)
    (finite : ∀ number ∈ corner.numbers, number.isFinite = .ok true) (inside : point.InSquare) :
    ∃ place : PointPlace config point, ∀ number ∈ place.numbers, number.isFinite = .ok true := by
  have canvasEnds := canvas.finite_of_corner corner finite
  obtain ⟨farAcross, farDown, farCentre, farAcrossAmount, farDownAmount⟩ :=
    canvas.corner_amounts canvasEnds
  obtain ⟨across, down, centre, ⟨_, acrossOrder, acrossAmount⟩, ⟨_, downOrder, downAmount⟩⟩ :=
    canvas.inside_amounts canvasEnds inside
  obtain ⟨_, _, radius, left, top, labelLeft, labelTop, cornerCentre, halved, leftOfCentre,
    aboveCentre, rightOfCentre, overCentre⟩ := corner
  cases farCentre.symm.trans cornerCentre
  obtain ⟨radius, radiusDouble, rfl⟩ := Number.combine_left_ok.1 leftOfCentre
  obtain ⟨_, sameRadius, rfl⟩ := Number.combine_left_ok.1 aboveCentre
  cases radiusDouble.symm.trans sameRadius
  obtain ⟨offset, offsetDouble, rfl⟩ := Number.combine_left_ok.1 rightOfCentre
  obtain ⟨_, sameOffset, rfl⟩ := Number.combine_left_ok.1 overCentre
  cases offsetDouble.symm.trans sameOffset
  simp only [PointPlace.numbers, List.forall_mem_cons, Number.isFinite_double] at finite
  obtain ⟨leftFinite, topFinite, labelLeftFinite, labelTopFinite, sizes⟩ := finite
  refine ⟨⟨.double across, .double down, _, _, _, _, _, centre, halved,
    Number.combine_left_ok.2 ⟨_, radiusDouble, rfl⟩,
    Number.combine_left_ok.2 ⟨_, radiusDouble, rfl⟩,
    Number.combine_left_ok.2 ⟨_, offsetDouble, rfl⟩,
    Number.combine_left_ok.2 ⟨_, offsetDouble, rfl⟩⟩, ?_⟩
  simp only [PointPlace.numbers, List.forall_mem_cons, Number.isFinite_double]
  exact ⟨acrossAmount.shift_back farAcrossAmount acrossOrder leftFinite,
    downAmount.shift_back farDownAmount downOrder topFinite,
    acrossAmount.shift farAcrossAmount acrossOrder labelLeftFinite,
    downAmount.shift_back farDownAmount downOrder labelTopFinite, sizes⟩

/-- Points whose numbers are finite one by one have finite shapes together. -/
theorem points_finite {points : List Point}
    (each : ∀ point ∈ points, ∃ place : PointPlace config point,
      ∀ number ∈ place.numbers, number.isFinite = .ok true) :
    ∃ shapes : List (List Shape),
      List.Forall₂ (fun point shapes => ∃ place : PointPlace config point,
        shapes = [place.marker, place.label]) points shapes ∧
      ∀ shape ∈ shapes.flatten, shape.IsFinite := by
  induction points with
  | nil => exact ⟨[], .nil, by simp⟩
  | cons point points inductionHypothesis =>
    obtain ⟨⟨place, finite⟩, others⟩ := List.forall_mem_cons.1 each
    obtain ⟨shapes, placed, laterFinite⟩ := inductionHypothesis others
    refine ⟨_, .cons ⟨place, rfl⟩ placed, ?_⟩
    rw [List.flatten_cons]
    exact List.forall_mem_append.2 ⟨place.shapes_finite.2 finite, laterFinite⟩

end Layout

/-- The chart with nothing but a point in the lower right corner. -/
def Chart.corner : Chart where
  points := [⟨[], 1, 0⟩]

namespace LayoutConfig

open Layout (FramePlace PointPlace Canvas)

variable {config : LayoutConfig}

/-- The chart has a layout, in finite numbers. -/
def Draws (config : LayoutConfig) (chart : Chart) : Prop :=
  ∃ shapes, Layout.shapes config chart = .ok shapes ∧ ∀ shape ∈ shapes, shape.IsFinite

/-- Every chart is drawn whose points lie in the unit square. -/
def IsDrawable (config : LayoutConfig) : Prop :=
  ∀ chart : Chart, (∀ point ∈ chart.points, point.InSquare) → config.Draws chart

/-- What a layout of the corner is made of. -/
theorem Draws.places (draws : config.Draws .corner) :
    config.validate = .ok () ∧
      (∃ place : FramePlace config, place.Sums ∧
        ∀ number ∈ place.numbers, number.isFinite = .ok true) ∧
      ∃ place : PointPlace config ⟨[], 1, 0⟩,
        ∀ number ∈ place.numbers, number.isFinite = .ok true := by
  obtain ⟨_, placed, finite⟩ := draws
  obtain ⟨valid, frame, points, sums, each, rfl⟩ := Layout.shapes_iff.1 placed
  obtain ⟨frameFinite, pointsFinite⟩ := List.forall_mem_append.1 finite
  cases each with
  | cons here others =>
    cases others
    obtain ⟨place, rfl⟩ := here
    rw [List.flatten_cons, List.flatten_nil, List.append_nil] at pointsFinite
    exact ⟨valid, ⟨frame, sums, (frame.shapes_finite _).1 frameFinite⟩, place,
      place.shapes_finite.1 pointsFinite⟩

theorem corner_inSquare : Point.InSquare ⟨[], 1, 0⟩ where
  x := ⟨by decide +kernel, by decide +kernel, by decide +kernel⟩
  y := ⟨by decide +kernel, by decide +kernel, by decide +kernel⟩

/-- Dimensions that draw a point in the corner draw every chart. -/
theorem drawable_iff_corner : config.IsDrawable ↔ config.Draws .corner := by
  constructor
  · intro drawable
    refine drawable .corner fun point member => ?_
    cases List.mem_singleton.1 member
    exact corner_inSquare
  · rintro draws chart inSquare
    obtain ⟨valid, ⟨frame, sums, frameFinite⟩, corner, cornerFinite⟩ := draws.places
    obtain ⟨canvas⟩ := Canvas.of_valid valid
    obtain ⟨points, each, pointsFinite⟩ := Layout.points_finite fun point member =>
      canvas.point_finite corner cornerFinite (inSquare point member)
    exact ⟨_, Layout.shapes_iff.2 ⟨valid, frame, points, sums, each, rfl⟩,
      List.forall_mem_append.2 ⟨(frame.shapes_finite chart).2 frameFinite, pointsFinite⟩⟩

end LayoutConfig

/-- Dimensions that are slight beside the canvas size and the padding. -/
structure LayoutConfig.Slight (config : LayoutConfig) : Prop where
  titleTop : config.titleTop.IsSlight
  titleHeight : config.titleHeight.IsSlight
  axisLabelWidth : config.axisLabelWidth.IsSlight
  axisLabelHeight : config.axisLabelHeight.IsSlight
  markerSize : config.markerSize.IsSlight
  labelOffset : config.labelOffset.IsSlight
  topLabelRise : config.topLabelRise.IsSlight

namespace Layout

variable {config : LayoutConfig}

/-- Before a finite far end, slight dimensions give the frame finite numbers. -/
theorem FramePlace.numbers_finite (place : FramePlace config) (sums : place.Sums)
    (valid : config.validate = .ok ()) (moderate : config.Moderate) (slight : config.Slight)
    (canvas : Canvas config) (finite : canvas.IsFinite) :
    ∀ number ∈ place.numbers, number.isFinite = .ok true := by
  obtain ⟨canvasFinite, paddingFinite⟩ := LayoutConfig.validate_finite valid
  have double (value : Binary64) := Number.within_double (2 ^ 51) value
  obtain ⟨half, halved, centre⟩ := Result.bind_ok.1 place.centre
  cases place.halved.symm.trans halved
  obtain ⟨halfValue, halfDouble, halfAmount⟩ := canvas.sideAmount.half place.halved
  rw [halfDouble] at centre
  obtain ⟨_, samePadding, middleDouble⟩ := Number.combine_right_ok.1 centre
  cases canvas.paddingDouble.symm.trans samePadding
  obtain ⟨_, -, middleAmount⟩ := canvas.paddingAmount.add_le halfAmount canvas.sizeAmount
    (Binary64.roundedQuotient_half _) finite
  have halfFinite : place.half.isFinite = .ok true := by
    rw [halfDouble, Number.isFinite_double]
    exact halfAmount.isFinite
  have middleFinite : place.middle.isFinite = .ok true := by
    rw [← middleDouble, Number.isFinite_double]
    exact middleAmount.isFinite
  have middleWithin : place.middle.Within (2 ^ 51) := by
    rw [← middleDouble]
    exact double _
  obtain ⟨far, farEnd, farWithin⟩ := moderate.padding.add moderate.canvasSize (by decide)
  cases place.farEnd.symm.trans farEnd
  have farSmall : place.far.Within (2 ^ 51) := farWithin.mono (by decide)
  have farFinite : place.far.isFinite = .ok true := by
    refine Number.combine_isFinite place.farEnd canvas.paddingDouble canvas.sizeDouble finite ?_
    intro padding size paddingInteger sizeInteger
    have paddingBound := moderate.padding padding paddingInteger
    have sizeBound := moderate.canvasSize size sizeInteger
    rw [Number.finiteLimit]
    omega
  obtain ⟨width, halfWidth, aroundMiddle⟩ := sums.aroundMiddle
  obtain ⟨widthValue, rfl, widthSlight⟩ := slight.axisLabelWidth.half halfWidth
  have below := slight.labelOffset.add middleFinite middleWithin moderate.labelOffset
    sums.belowMiddle
  have right := slight.axisLabelWidth.sub farFinite farSmall moderate.axisLabelWidth sums.leftOfFar
  have centred := Number.IsSlight.sub ⟨_, rfl, widthSlight⟩ middleFinite middleWithin
    (Number.within_double _ _) aroundMiddle
  have above := slight.topLabelRise.sub paddingFinite (moderate.padding.mono (by decide))
    moderate.topLabelRise sums.overPadding
  have under := slight.labelOffset.add farFinite farSmall moderate.labelOffset sums.pastFar
  simp only [numbers, List.forall_mem_cons]
  exact ⟨paddingFinite, slight.titleTop.isFinite, canvasFinite, slight.titleHeight.isFinite,
    halfFinite, middleFinite, farFinite, below, right, centred, above, under,
    slight.axisLabelWidth.isFinite, slight.axisLabelHeight.isFinite, by simp⟩

/-- Before a finite far end, slight dimensions give a point in the corner finite numbers. -/
theorem PointPlace.numbers_finite {label : Text} (place : PointPlace config ⟨label, 1, 0⟩)
    (slight : config.Slight) (moderate : config.Moderate) (canvas : Canvas config)
    (finite : canvas.IsFinite) :
    ∀ number ∈ place.numbers, number.isFinite = .ok true := by
  obtain ⟨across, down, centre, acrossAmount, downAmount⟩ := canvas.corner_amounts finite
  obtain ⟨acrossDouble, downDouble⟩ := Prod.mk.inj (Except.ok.inj (centre.symm.trans place.centre))
  obtain ⟨radius, radiusDouble, radiusSlight⟩ := slight.markerSize.half place.halved
  have acrossFinite : place.across.isFinite = .ok true := by
    rw [← acrossDouble, Number.isFinite_double]
    exact acrossAmount.isFinite
  have downFinite : place.down.isFinite = .ok true := by
    rw [← downDouble, Number.isFinite_double]
    exact downAmount.isFinite
  have acrossWithin : place.across.Within (2 ^ 51) := by
    rw [← acrossDouble]
    exact Number.within_double _ _
  have downWithin : place.down.Within (2 ^ 51) := by
    rw [← downDouble]
    exact Number.within_double _ _
  have radiusWithin : place.radius.Within (2 ^ 50) := by
    rw [radiusDouble]
    exact Number.within_double _ _
  have isSlight : place.radius.IsSlight := ⟨radius, by rw [radiusDouble]; rfl, radiusSlight⟩
  simp only [numbers, List.forall_mem_cons]
  exact ⟨isSlight.sub acrossFinite acrossWithin radiusWithin place.leftOfCentre,
    isSlight.sub downFinite downWithin radiusWithin place.aboveCentre,
    slight.labelOffset.add acrossFinite acrossWithin moderate.labelOffset place.rightOfCentre,
    slight.labelOffset.sub downFinite downWithin moderate.labelOffset place.overCentre,
    slight.markerSize.isFinite, slight.axisLabelWidth.isFinite, slight.axisLabelHeight.isFinite,
    by simp⟩

end Layout

namespace LayoutConfig

open Layout (Canvas)

variable {config : LayoutConfig}

/-- Slight dimensions draw every chart exactly before a finite far end of the canvas. -/
theorem drawable_iff_canvas (valid : config.validate = .ok ()) (moderate : config.Moderate)
    (slight : config.Slight) (canvas : Canvas config) : config.IsDrawable ↔ canvas.IsFinite := by
  rw [drawable_iff_corner]
  constructor
  · intro draws
    obtain ⟨-, -, corner, finite⟩ := draws.places
    exact canvas.finite_of_corner corner finite
  · intro finite
    obtain ⟨_, placed, -⟩ := Layout.shapes_placed moderate valid .corner
    obtain ⟨-, frame, points, sums, each, rfl⟩ := Layout.shapes_iff.1 placed
    refine ⟨_, placed, List.forall_mem_append.2 ⟨(frame.shapes_finite _).2
      (frame.numbers_finite sums valid moderate slight canvas finite), ?_⟩⟩
    cases each with
    | cons here others =>
      cases others
      obtain ⟨place, rfl⟩ := here
      rw [List.flatten_cons, List.flatten_nil, List.append_nil]
      exact place.shapes_finite.2 (place.numbers_finite slight moderate canvas finite)

end LayoutConfig

end QuadrantChart
