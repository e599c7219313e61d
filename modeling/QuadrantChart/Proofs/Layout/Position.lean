/-
This file proves that a position, its place on the canvas and the colour of its marker agree.
-/

import QuadrantChart.Proofs.Layout.Drawable
import QuadrantChart.Proofs.Number.Order

namespace QuadrantChart

open Binary64 (roundedQuotient roundedQuotient_mono scaledUnits unitsPerOne)

/-- The quadrant of a position in units. The middle belongs to the upper half and to the right
half. -/
def Quadrant.ofUnits (across up : Nat) : Quadrant :=
  if unitsPerOne ≤ 2 * up then
    if unitsPerOne ≤ 2 * across then .topRight else .topLeft
  else if unitsPerOne ≤ 2 * across then .bottomRight
  else .bottomLeft

/-- The side of the middle of a canvas on which a quadrant lies, whose lower half is further
down. -/
def Quadrant.Covers (quadrant : Quadrant) (middle across down : Binary64) : Prop :=
  match quadrant with
  | .topRight => middle.le across = true ∧ down.le middle = true
  | .topLeft => across.le middle = true ∧ down.le middle = true
  | .bottomLeft => across.le middle = true ∧ middle.le down = true
  | .bottomRight => middle.le across = true ∧ middle.le down = true

theorem Quadrant.ofPosition_amounts {x y : Number} {across up : Nat} (xAmount : x.IsAmount across)
    (yAmount : y.IsAmount up) : ofPosition? x y = some (.ofUnits across up) := by
  have half := Binary64.half_one
  have right := Number.half_amount.le_iff xAmount
  have left := xAmount.lt_iff Number.half_amount
  have upper := Number.half_amount.le_iff yAmount
  have lower := yAmount.lt_iff Number.half_amount
  generalize roundedQuotient unitsPerOne 2 = part at *
  simp only [ofPosition?, ofUnits, ← half, Bool.and_eq_true, right, left, upper, lower]
  split_ifs <;> first | rfl | omega

theorem Style.quadrantColor_injective : ∀ first second : Quadrant,
    quadrantColor first = quadrantColor second → first = second := by
  rintro (_ | _ | _ | _) (_ | _ | _ | _) <;> decide

theorem Style.quadrantColor_ne_neutral : ∀ quadrant, quadrantColor quadrant ≠ neutralColor := by
  rintro (_ | _ | _ | _) <;> decide

theorem Style.marker_injective {first second : Text} (same : marker first = marker second) :
    first = second := by
  unfold marker at same
  rw [List.append_assoc, List.append_assoc] at same
  exact List.append_cancel_right (List.append_cancel_left same)

theorem Point.ofNumbers_inSquare {label : Text} {x y : Number} {point : Point}
    (made : ofNumbers label x y = .ok point) : point.InSquare := by
  simp only [ofNumbers, Result.bind_ok, Result.pure_ok] at made
  obtain ⟨_, -, _, -, rfl⟩ := made
  exact clamped_inSquare _ _ _

namespace Layout

variable {config : LayoutConfig} {size padding : Binary64} {side near : Nat}

/-- A canvas in floating point numbers that is large enough for its half to be exact. -/
structure Halves (config : LayoutConfig) (size padding : Binary64) (side near : Nat) : Prop where
  isSize : config.canvasSize = .double size
  isPadding : config.padding = .double padding
  sizeAmount : size.IsAmount side
  paddingAmount : padding.IsAmount near
  half : 2 * roundedQuotient side 2 = side

theorem Halves.of_valid (isSize : config.canvasSize = .double size)
    (isPadding : config.padding = .double padding) (valid : config.validate = .ok ())
    (large : (Binary64.powerOfTwo (-1021)).le size = true) :
    ∃ side near, Halves config size padding side near := by
  obtain ⟨side, near, sizeAmount, paddingAmount⟩ := LayoutConfig.validate_amounts valid
  rw [isSize] at sizeAmount
  rw [isPadding] at paddingAmount
  have enough := (Binary64.powerOfTwo_amount.le_iff sizeAmount).1 large
  exact ⟨side, near, isSize, isPadding, sizeAmount, paddingAmount,
    Binary64.roundedQuotient_halved (Binary64.IsAmount.representable sizeAmount) enough⟩

theorem Halves.middle (halves : Halves config size padding side near) :
    config.middle = .ok (.double (padding + size / 2)) := by
  have half : config.half = .ok (.double (size / 2)) := by
    rw [LayoutConfig.half, halves.isSize]
    rfl
  rw [LayoutConfig.middle, half, halves.isPadding]
  rfl

theorem Halves.toCanvas (halves : Halves config size padding side near) {x y : Number}
    {right up : Binary64} (xDouble : x.toDouble = .ok right) (yDouble : y.toDouble = .ok up) :
    toCanvas config x y = .ok (.double (padding + right * size),
      .double (padding + (size - up * size))) := by
  simp only [Layout.toCanvas, halves.isSize, halves.isPadding, Result.bind_ok, Result.pure_ok]
  exact ⟨_, Number.combine_right_ok.2 ⟨_, xDouble, rfl⟩, _, rfl, _,
    Number.combine_right_ok.2 ⟨_, yDouble, rfl⟩, _, rfl, _, rfl, rfl⟩

/-- How far down a part of the canvas reaches that is counted from below. -/
def fallenUnits (up side : Nat) : Nat :=
  roundedQuotient (side - scaledUnits up side) 1

theorem fallenUnits_mono {up higher : Nat} (side : Nat) (order : up ≤ higher) :
    fallenUnits higher side ≤ fallenUnits up side := by
  have scaled := Binary64.scaledUnits_mono side order
  exact roundedQuotient_mono 1 (by omega)

theorem fallenUnits_zero (representable : Binary64.Representable side) :
    fallenUnits 0 side = side := by
  rw [fallenUnits, Binary64.scaledUnits_zero, Nat.sub_zero,
    Binary64.roundedQuotient_one representable]

theorem fallenUnits_one (representable : Binary64.Representable side) :
    fallenUnits unitsPerOne side = 0 := by
  rw [fallenUnits, Binary64.scaledUnits_one representable, Nat.sub_self,
    Binary64.roundedQuotient_small 0 1 (by decide)]

/-- From the middle it is as far down as up, where the half is exact. -/
theorem fallenUnits_half (representable : Binary64.Representable side)
    (exact : 2 * roundedQuotient side 2 = side) :
    fallenUnits (roundedQuotient unitsPerOne 2) side = roundedQuotient side 2 := by
  have below := representable.1
  have half : Binary64.Representable (roundedQuotient side 2) :=
    ⟨by omega, Binary64.roundedQuotient_dvd side 2⟩
  have rest : side - roundedQuotient side 2 = roundedQuotient side 2 := by omega
  rw [fallenUnits, Binary64.scaledUnits_half, rest, Binary64.roundedQuotient_one half]

/-- How far a position lies from the upper left corner of the page before its place is rounded. -/
structure Rounds (side near x y : Nat) (across down : Binary64) : Prop where
  across : across.IsRounding (near + scaledUnits x side)
  down : down.IsRounding (near + fallenUnits y side)

/-- A position in the unit square has a place on the canvas, which rounds an exact one. -/
theorem Halves.place_exists (halves : Halves config size padding side near) {x y : Number}
    (xInside : x.InUnit) (yInside : y.InUnit) :
    ∃ xUnits yUnits across down, x.IsAmount xUnits ∧ xUnits ≤ unitsPerOne ∧ y.IsAmount yUnits ∧
      yUnits ≤ unitsPerOne ∧ Layout.toCanvas config x y = .ok (.double across, .double down) ∧
      Rounds side near xUnits yUnits across down := by
  obtain ⟨xUnits, xBound, xAmount, right, xDouble, rightAmount⟩ := xInside.amount
  obtain ⟨yUnits, yBound, yAmount, up, yDouble, upAmount⟩ := yInside.amount
  have high := upAmount.scaled yBound halves.sizeAmount
  have order := Binary64.scaledUnits_le halves.sizeAmount.representable yBound
  exact ⟨xUnits, yUnits, _, _, xAmount, xBound, yAmount, yBound, halves.toCanvas xDouble yDouble,
    halves.paddingAmount.add (rightAmount.scaled xBound halves.sizeAmount),
    halves.paddingAmount.add (halves.sizeAmount.sub high order)⟩

/-- A place lies on the canvas, exactly at its edges and in its middle where the position does, and
in the quadrant whose colour its marker has. -/
structure IsPlace (padding size : Binary64) (x y : Number) (across down : Binary64) : Prop where
  afterLeft : padding.le across = true
  beforeRight : across.le (padding + size) = true
  belowTop : padding.le down = true
  aboveBottom : down.le (padding + size) = true
  left : x.Same 0 → Binary64.Same across padding
  right : x.Same 1 → Binary64.Same across (padding + size)
  central : x.Same (.double (1 / 2)) → Binary64.Same across (padding + size / 2)
  bottom : y.Same 0 → Binary64.Same down (padding + size)
  top : y.Same 1 → Binary64.Same down padding
  level : y.Same (.double (1 / 2)) → Binary64.Same down (padding + size / 2)
  colour : ∀ quadrant, Style.pointColor x y = Style.quadrantColor quadrant →
    quadrant.Covers (padding + size / 2) across down
  coloured : Style.pointColor x y ≠ Style.neutralColor

theorem Halves.middle_rounding (halves : Halves config size padding side near) :
    (padding + size / 2).IsRounding (near + roundedQuotient side 2) :=
  halves.paddingAmount.add halves.sizeAmount.half

/-- The quadrant of a position in units covers its place. -/
theorem Halves.covers (halves : Halves config size padding side near) {x y : Nat}
    {across down : Binary64} (rounds : Rounds side near x y across down) :
    (Quadrant.ofUnits x y).Covers (padding + size / 2) across down := by
  have half := Binary64.half_one
  have scaledHalf := Binary64.scaledUnits_half side
  have fallenHalf := fallenUnits_half halves.sizeAmount.representable halves.half
  have middle := halves.middle_rounding
  generalize roundedQuotient unitsPerOne 2 = part at half scaledHalf fallenHalf
  have right (above : part ≤ x) : (padding + size / 2).le across = true := by
    have order := Binary64.scaledUnits_mono side above
    exact middle.le rounds.across (by omega)
  have left (below : x ≤ part) : across.le (padding + size / 2) = true := by
    have order := Binary64.scaledUnits_mono side below
    exact rounds.across.le middle (by omega)
  have upper (above : part ≤ y) : down.le (padding + size / 2) = true := by
    have order := fallenUnits_mono side above
    exact rounds.down.le middle (by omega)
  have lower (below : y ≤ part) : (padding + size / 2).le down = true := by
    have order := fallenUnits_mono side below
    exact middle.le rounds.down (by omega)
  unfold Quadrant.ofUnits
  split_ifs with high far far
  · exact ⟨right (by omega), upper (by omega)⟩
  · exact ⟨left (by omega), upper (by omega)⟩
  · exact ⟨right (by omega), lower (by omega)⟩
  · exact ⟨left (by omega), lower (by omega)⟩

/-- Every position in the unit square has a place that agrees with it. -/
theorem Halves.isPlace (halves : Halves config size padding side near) {x y : Number}
    {xUnits yUnits : Nat} {across down : Binary64} (xAmount : x.IsAmount xUnits)
    (xBound : xUnits ≤ unitsPerOne) (yAmount : y.IsAmount yUnits)
    (rounds : Rounds side near xUnits yUnits across down) :
    IsPlace padding size x y across down := by
  have representable := halves.sizeAmount.representable
  have start := halves.paddingAmount.isRounding
  have far : (padding + size).IsRounding (near + side) :=
    halves.paddingAmount.add halves.sizeAmount
  have middle := halves.middle_rounding
  have wide := Binary64.scaledUnits_le representable xBound
  have deep : fallenUnits yUnits side ≤ side := by
    have order := fallenUnits_mono side (Nat.zero_le yUnits)
    rwa [fallenUnits_zero representable] at order
  have colour : Style.pointColor x y = Style.quadrantColor (.ofUnits xUnits yUnits) := by
    rw [Style.pointColor, Quadrant.ofPosition_amounts xAmount yAmount]
  exact {
    afterLeft := start.le rounds.across (by omega)
    beforeRight := rounds.across.le far (by omega)
    belowTop := start.le rounds.down (by omega)
    aboveBottom := rounds.down.le far (by omega)
    left := fun same => rounds.across.same start (by
      rw [(xAmount.same_iff Number.zero_amount).1 same, Binary64.scaledUnits_zero, Nat.add_zero])
    right := fun same => rounds.across.same far (by
      rw [(xAmount.same_iff Number.one_amount).1 same, Binary64.scaledUnits_one representable])
    central := fun same => rounds.across.same middle (by
      rw [(xAmount.same_iff Number.half_amount).1 same, Binary64.scaledUnits_half])
    bottom := fun same => rounds.down.same far (by
      rw [(yAmount.same_iff Number.zero_amount).1 same, fallenUnits_zero representable])
    top := fun same => rounds.down.same start (by
      rw [(yAmount.same_iff Number.one_amount).1 same, fallenUnits_one representable, Nat.add_zero])
    level := fun same => rounds.down.same middle (by
      rw [(yAmount.same_iff Number.half_amount).1 same, fallenUnits_half representable halves.half])
    colour := fun quadrant same => by
      rw [← Style.quadrantColor_injective _ _ (colour.symm.trans same)]
      exact halves.covers rounds
    coloured := by
      rw [colour]
      exact Style.quadrantColor_ne_neutral _ }

/-- Places keep the order of positions, where the second coordinate is turned around. -/
theorem Rounds.order {x y otherX otherY : Nat} {across down otherAcross otherDown : Binary64}
    (rounds : Rounds side near x y across down)
    (otherRounds : Rounds side near otherX otherY otherAcross otherDown) :
    (x ≤ otherX → across.le otherAcross = true) ∧ (y ≤ otherY → otherDown.le down = true) := by
  constructor
  · intro order
    have scaled := Binary64.scaledUnits_mono side order
    exact rounds.across.le otherRounds.across (by omega)
  · intro order
    have fallen := fallenUnits_mono side order
    exact otherRounds.down.le rounds.down (by omega)

/-- The captions of the quadrants lie in the four parts of the canvas. -/
theorem shapes_captions {chart : Chart} {shapes : List Shape} {middle : Number}
    (centre : config.middle = .ok middle) (placed : Layout.shapes config chart = .ok shapes) :
    ∃ half,
      vertex chart.captions.topRight Style.watermark middle config.padding half half ∈ shapes ∧
      vertex chart.captions.topLeft Style.watermark config.padding config.padding half half ∈
        shapes ∧
      vertex chart.captions.bottomLeft Style.watermark config.padding middle half half ∈ shapes ∧
      vertex chart.captions.bottomRight Style.watermark middle middle half half ∈ shapes := by
  obtain ⟨-, frame, points, -, rfl⟩ := shapes_ok placed
  cases centre.symm.trans frame.centre
  refine ⟨frame.half, ?_, ?_, ?_, ?_⟩ <;>
    exact List.mem_append_left _ (by simp [FramePlace.shapes, captionShapes])

/-- The shapes of points have the markers of these points. -/
theorem points_coloured {points : List Point} {shapes : List (List Shape)}
    (each : List.Forall₂ (fun point shapes => ∃ place : PointPlace config point,
      shapes = [place.marker, place.label]) points shapes)
    (inSquare : ∀ point ∈ points, point.InSquare) :
    ∀ shape ∈ shapes.flatten, shape.style ∈ Style.labels ∨
      ∃ quadrant, shape.style = Style.marker (Style.quadrantColor quadrant) := by
  induction each with
  | nil => simp
  | cons first others inductionHypothesis =>
    obtain ⟨place, rfl⟩ := first
    obtain ⟨here, later⟩ := List.forall_mem_cons.1 inSquare
    rw [List.flatten_cons, List.forall_mem_append]
    have marker := congrArg Style.marker here.pointColor
    have label := place.label_style_mem
    exact ⟨List.forall_mem_cons.2 ⟨.inr ⟨_, marker⟩, List.forall_mem_singleton.2 (.inl label)⟩,
      inductionHypothesis later⟩

/-- No shape of a layout has the marker of a position that lies in no quadrant. -/
theorem shapes_coloured {chart : Chart} {shapes : List Shape}
    (inSquare : ∀ point ∈ chart.points, point.InSquare)
    (placed : Layout.shapes config chart = .ok shapes) :
    ∀ shape ∈ shapes, shape.style ≠ Style.marker Style.neutralColor := by
  obtain ⟨-, frame, points, each, rfl⟩ := shapes_ok placed
  have ellipse : Style.hasWord (Style.marker Style.neutralColor) "ellipse".toList = true :=
    (Style.marker_items _ (.head _)).2.1
  intro shape member neutral
  rcases List.mem_append.1 member with early | late
  · have none := frame.shapes_ellipseless chart shape early
    rw [neutral, ellipse] at none
    cases none
  · rcases points_coloured each inSquare shape late with label | ⟨quadrant, marker⟩
    · have none := (Style.label_items _ label).2.1
      rw [neutral, ellipse] at none
      cases none
    · have same := Style.marker_injective (marker.symm.trans neutral)
      exact Style.quadrantColor_ne_neutral quadrant same

/-- On a canvas whose half is exact, every position in the unit square has a place in the quadrant
of its colour, which keeps the order of positions. No marker of a chart has the colour of no
quadrant. -/
theorem position_agrees (isSize : config.canvasSize = .double size)
    (isPadding : config.padding = .double padding) (valid : config.validate = .ok ())
    (large : (Binary64.powerOfTwo (-1021)).le size = true) :
    config.middle = .ok (.double (padding + size / 2)) ∧
    (∀ x y : Number, x.InUnit → y.InUnit → ∃ across down,
      toCanvas config x y = .ok (.double across, .double down) ∧
        IsPlace padding size x y across down) ∧
    (∀ (x y otherX otherY : Number) (across down otherAcross otherDown : Binary64),
      x.InUnit → y.InUnit → otherX.InUnit → otherY.InUnit →
      toCanvas config x y = .ok (.double across, .double down) →
      toCanvas config otherX otherY = .ok (.double otherAcross, .double otherDown) →
      (x.le otherX = true → across.le otherAcross = true) ∧
        (y.le otherY = true → otherDown.le down = true)) ∧
    (∀ (chart : Chart) (shapes : List Shape), Layout.shapes config chart = .ok shapes → ∃ half,
      let caption (value : Text) (x y : Binary64) :=
        vertex value Style.watermark (.double x) (.double y) half half
      caption chart.captions.topRight (padding + size / 2) padding ∈ shapes ∧
        caption chart.captions.topLeft padding padding ∈ shapes ∧
        caption chart.captions.bottomLeft padding (padding + size / 2) ∈ shapes ∧
        caption chart.captions.bottomRight (padding + size / 2) (padding + size / 2) ∈ shapes) ∧
    ∀ (other : LayoutConfig) (chart : Chart) (shapes : List Shape),
      (∀ point ∈ chart.points, ∃ label x y, Point.ofNumbers label x y = .ok point) →
      Layout.shapes other chart = .ok shapes →
      ∀ shape ∈ shapes, shape.style ≠ Style.marker Style.neutralColor := by
  obtain ⟨side, near, halves⟩ := Halves.of_valid isSize isPadding valid large
  refine ⟨halves.middle, ?_, ?_, ?_, ?_⟩
  · intro x y xInside yInside
    obtain ⟨_, _, across, down, xAmount, xBound, yAmount, -, placed, rounds⟩ :=
      halves.place_exists xInside yInside
    exact ⟨across, down, placed, halves.isPlace xAmount xBound yAmount rounds⟩
  · intro x y otherX otherY across down otherAcross otherDown xInside yInside otherXInside
      otherYInside placed otherPlaced
    obtain ⟨_, _, _, _, xAmount, -, yAmount, -, found, rounds⟩ :=
      halves.place_exists xInside yInside
    obtain ⟨_, _, _, _, otherXAmount, -, otherYAmount, -, otherFound, otherRounds⟩ :=
      halves.place_exists otherXInside otherYInside
    cases found.symm.trans placed
    cases otherFound.symm.trans otherPlaced
    rw [xAmount.le_iff otherXAmount, yAmount.le_iff otherYAmount]
    exact rounds.order otherRounds
  · intro chart shapes placed
    have captions := shapes_captions halves.middle placed
    rwa [isPadding] at captions
  · intro other chart shapes clamped placed
    refine shapes_coloured (fun point member => ?_) placed
    obtain ⟨label, x, y, made⟩ := clamped point member
    exact Point.ofNumbers_inSquare made

/-- On the usual canvas the middle of the unit square lies in the middle, and belongs to the upper
right quadrant. -/
theorem position_agrees_middle :
    let config : LayoutConfig := { canvasSize := .double 600, padding := .double 100 }
    (∃ across down, toCanvas config (.double (1 / 2)) (.double (1 / 2)) =
        .ok (.double across, .double down) ∧
      Binary64.Same across (100 + 600 / 2) ∧ Binary64.Same down (100 + 600 / 2) ∧
      Quadrant.topRight.Covers (100 + 600 / 2) across down) := by
  intro config
  have inside : (Number.double (1 / 2)).InUnit := ⟨by decide +kernel, by decide +kernel⟩
  have same := (Number.same_double (1 / 2) (1 / 2)).2 (Binary64.same_refl _)
  obtain ⟨-, places, -⟩ := position_agrees (rfl : config.canvasSize = .double 600)
    (rfl : config.padding = .double 100) (by decide +kernel) (by decide +kernel)
  obtain ⟨across, down, placed, place⟩ := places _ _ inside inside
  exact ⟨across, down, placed, place.central same, place.level same,
    place.colour .topRight (by decide +kernel)⟩

end Layout

end QuadrantChart
