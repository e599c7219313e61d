/-
This file proves which dividers are drawn to their end: those that are not too long for the dashes
of their scale.
-/

import Mathlib.Algebra.Group.Int.Defs
import QuadrantChart.Proofs.Layout.Extent
import QuadrantChart.Proofs.Number.UpTo
import QuadrantChart.Proofs.Preview.Endless

namespace QuadrantChart

open Binary64 (roundedQuotient unitsPerOne)

namespace Preview

variable {config : LayoutConfig} {scale : Number} {side : Int} {loop : Dash.Loop} {units : Nat}

/-- Only a finite scale above zero has a page. -/
theorem pageSide_scale (page : pageSide config scale = .ok side) :
    ∃ units, 0 < units ∧ scale.IsAmount units := by
  have positive : scale.le 0 = false := by
    cases flat : scale.le 0 with
    | false => rfl
    | true =>
      rw [pageSide, flat] at page
      cases page
  obtain ⟨total, -, sized⟩ := (pageSide_ok positive).1 page
  have isAmount : ∃ units, scale.IsAmount units := by
    cases scale with
    | integer value =>
      have order : 0 ≤ value := by
        simp [Number.le, Number.isNan, Number.lt] at positive
        omega
      refine ⟨value.toNat * unitsPerOne, ?_⟩
      rw [Number.IsAmount, Int.natCast_mul, Int.toNat_of_nonneg order]
    | double value =>
      obtain ⟨first, nearest, -, rounded, -⟩ := Number.sizeAt_ok.1 sized
      have finite := Number.isFinite_double.2
        (Binary64.finite_of_mul (Number.round_double.1 ⟨nearest, rounded⟩))
      exact Number.isAmount_of_finite finite (Number.lt_zero_of_le finite positive)
  obtain ⟨units, amount⟩ := isAmount
  refine ⟨units, Nat.pos_of_ne_zero fun none => ?_, amount⟩
  have flat := (amount.le_iff Number.zero_amount).2 (Nat.le_of_eq none)
  exact Bool.false_ne_true (positive.symm.trans flat)

/-- At a scale above zero, dashes are at least as long as the scale, and longer than gaps. -/
theorem DashedLine.loop_regular {start stop : Number × Number} {line : DashedLine}
    (amount : scale.IsAmount units) (positive : 0 < units)
    (between : DashedLine.between start stop scale = .ok line) :
    ∃ dash gap, line.loop.Regular dash gap ∧ units ≤ dash := by
  obtain ⟨_, _, _, _, dash, gap⟩ := line
  obtain ⟨⟨_, dashScaled, dashDouble⟩, ⟨_, gapScaled, gapDouble⟩, -⟩ :=
    DashedLine.between_ok.1 between
  obtain ⟨factor, converts, rfl⟩ := Number.combine_left_ok.1 dashScaled
  obtain ⟨_, again, rfl⟩ := Number.combine_left_ok.1 gapScaled
  cases converts.symm.trans again
  cases dashDouble
  cases gapDouble
  have factorAmount := amount.toDouble converts
  have scaled (count : Nat) (small : count ≤ 2 ^ 53) :
      (Binary64.ofNat count * factor).IsExtent
        (Binary64.cappedUnits (roundedQuotient units 1 * count)) := by
    rw [Binary64.mul_comm]
    exact Binary64.IsRounding.isExtent (factorAmount.mul (Binary64.ofNat_amount small))
  have long : units ≤ Binary64.cappedUnits (roundedQuotient units 1 * 6) := by
    refine Nat.le_min.2 ⟨?_, ?_⟩
    · -- Rounding keeps the leading bit of the scale, and six times the scale has two bits more.
      have leading : 2 ^ units.log2 ≤ roundedQuotient units 1 :=
        Binary64.two_pow_le_roundedQuotient units 1 _
          (by rw [Nat.div_one]; exact Nat.log2_self_le (by omega))
      have bounded : units < 2 ^ (units.log2 + 1) := Nat.lt_log2_self
      have further : 2 ^ (units.log2 + 1) ≤ roundedQuotient (roundedQuotient units 1 * 6) 1 := by
        refine Binary64.two_pow_le_roundedQuotient _ 1 _ ?_
        rw [Nat.div_one, Nat.pow_succ]
        omega
      omega
    · have below := Binary64.lt_overflow Nat.one_pos factorAmount.representable.1
      omega
  exact ⟨_, _, ⟨scaled 6 (by decide), scaled 4 (by decide), Nat.lt_of_lt_of_le positive long,
    Binary64.cappedUnits_mono (by omega)⟩, long⟩

/-- A loop is within reach when its limit is at most `2 ^ 53` times every power of two that bounds
the scale. -/
theorem DashedLine.loop_within {start stop : Number × Number} {line : DashedLine}
    (amount : scale.IsAmount units) (positive : 0 < units)
    (between : DashedLine.between start stop scale = .ok line)
    (bounded : ∀ exponent, units ≤ 2 ^ exponent → line.loop.limit.extent ≤ 2 ^ (53 + exponent)) :
    line.loop.WithinReach := by
  obtain ⟨dash, gap, regular, long⟩ := line.loop_regular amount positive between
  rw [Dash.Loop.WithinReach, regular.dashExtent.extent_eq]
  exact bounded _ (Nat.le_trans long (Dash.Loop.reach_small dash))

end Preview

namespace Layout.FramePlace

variable {config : LayoutConfig} {scale : Number} {loop : Dash.Loop} {units canvas padding : Nat}

/-- The dividers of a canvas of moderate dimensions are drawn to their end at every scale. -/
theorem dividers_within (frame : FramePlace config) (amount : scale.IsAmount units)
    (positive : 0 < units) (canvasAmount : config.canvasSize.IsAmount canvas)
    (paddingAmount : config.padding.IsAmount padding) (canvasSmall : canvas ≤ 2 ^ 52 * unitsPerOne)
    (paddingSmall : padding ≤ 2 ^ 52 * unitsPerOne) {divider : Shape}
    (member : divider ∈ frame.dividers) (made : divider.dashLoop scale = .ok loop) :
    loop.WithinReach := by
  obtain ⟨reach, farSmall, farAmount⟩ :=
    paddingAmount.add_small canvasAmount paddingSmall canvasSmall frame.farEnd
  have nearSmall : padding ≤ 2 ^ 53 * unitsPerOne := by omega
  -- Whichever way a divider goes, it is as long as its far end is from the padding.
  have magnitude {near far step : Number} {value : Binary64} {exponent : Nat}
      (small : units ≤ 2 ^ exponent) (nearScaled : config.padding.mul scale = .ok near)
      (farScaled : frame.far.mul scale = .ok far) (difference : far.sub near = .ok step)
      (converts : step.toDouble = .ok value) : value.absoluteUnits ≤ 2 ^ (53 + exponent) := by
    refine (farAmount.mul_upTo amount farSmall small farScaled).sub_absoluteUnits
      (paddingAmount.mul_upTo amount nearSmall small nearScaled) ?_ difference converts
    have kept := Binary64.roundedQuotient_two_pow (53 + exponent) Nat.one_pos
    rwa [Nat.mul_one] at kept
  obtain ⟨startX, xScaled, startY, yScaled, stopX, widthScaled, stopY, heightScaled, line, between,
    rfl⟩ := Shape.dashLoop_ok.1 made
  refine Preview.DashedLine.loop_within amount positive between fun exponent small => ?_
  obtain ⟨-, -, ⟨_, acrossChange, acrossDouble⟩, ⟨_, downChange, downDouble⟩, -, limit⟩ :=
    Preview.DashedLine.between_ok.1 between
  rw [limit]
  rcases List.mem_cons.1 member with rfl | other
  · cases xScaled.symm.trans widthScaled
    have level := Number.sub_self_level acrossChange acrossDouble
    exact Nat.le_trans (Binary64.length_down_extent level line.down)
      (magnitude small yScaled heightScaled downChange downDouble)
  · cases List.mem_singleton.1 other
    cases yScaled.symm.trans heightScaled
    have level := Number.sub_self_level downChange downDouble
    exact Nat.le_trans (Binary64.length_across_extent level line.across)
      (magnitude small xScaled widthScaled acrossChange acrossDouble)

end Layout.FramePlace

namespace Preview

/-- Every edge that is drawn in dashes is within reach of them. -/
def WithinReach (shapes : List Shape) (scale : Number) : Prop :=
  ∀ shape ∈ shapes, shape.isEdge = true → ∀ loop, shape.dashLoop scale = .ok loop →
    loop.WithinReach

variable {config : LayoutConfig} {chart : Chart} {shapes : List Shape} {scale : Number}
  {units : Nat}

theorem shape_regular {shape : Shape} {loop : Dash.Loop} (amount : scale.IsAmount units)
    (positive : 0 < units) (made : shape.dashLoop scale = .ok loop) :
    ∃ dash gap, loop.Regular dash gap := by
  obtain ⟨_, -, _, -, _, -, _, -, line, between, rfl⟩ := Shape.dashLoop_ok.1 made
  obtain ⟨dash, gap, regular, -⟩ := line.loop_regular amount positive between
  exact ⟨dash, gap, regular⟩

/-- Edges within reach are not endless. -/
theorem drawShapes_within (amount : scale.IsAmount units) (positive : 0 < units)
    (within : WithinReach shapes scale) : (drawShapes scale shapes).fault ≠ some .unending := by
  refine drawShapes_terminates fun shape member => drawShape_terminates fun isEdge loop made => ?_
  obtain ⟨dash, gap, regular⟩ := shape_regular amount positive made
  exact (Dash.Loop.ends_iff regular).2.2 (within shape member isEdge loop made)

/-- Of what is drawn to its end, every shape is. -/
theorem drawShape_of_drawn (done : (drawShapes scale shapes).fault = none) :
    ∀ shape ∈ shapes, (drawShape scale shape).fault = none := by
  induction shapes with
  | nil => simp
  | cons shape shapes inductionHypothesis =>
    obtain ⟨first, others⟩ := Drawing.append_fault.1 done
    exact List.forall_mem_cons.2 ⟨first, inductionHypothesis others⟩

/-- Dividers that are drawn to their end are within reach. -/
theorem within_of_drawn (placed : Layout.shapes config chart = .ok shapes)
    (amount : scale.IsAmount units) (positive : 0 < units)
    (done : (drawShapes scale shapes).fault = none) : WithinReach shapes scale := by
  obtain ⟨frame, edges⟩ := Layout.shapes_edges placed
  intro shape member isEdge loop made
  obtain ⟨dash, gap, regular⟩ := shape_regular amount positive made
  have isDivider : shape.style = Style.divider := by
    have divider : shape ∈ frame.dividers := edges ▸ List.mem_filter.2 ⟨member, isEdge⟩
    rcases List.mem_cons.1 divider with rfl | other
    · rfl
    · cases List.mem_singleton.1 other
      rfl
  obtain ⟨-, -, dashed, -⟩ := Style.divider_items
  rw [← isDivider] at dashed
  have drawn : drawShape scale shape = { calls := (drawShape scale shape).calls } := by
    rw [← drawShape_of_drawn done shape member]
  obtain ⟨width, edge⟩ := drawShape_edge isEdge drawn
  obtain ⟨_, again, ended⟩ := edgeCalls_loop dashed edge
  cases made.symm.trans again
  rcases ended with flat | divided
  · rw [Binary64.eq, Bool.and_eq_true, Binary64.le, Bool.and_eq_true, Bool.not_eq_true'] at flat
    exact (Dash.Loop.ends_iff regular).1.1 ⟨0, flat.1.2⟩
  · exact (Dash.Loop.ends_iff regular).2.1 divided

/-- A preview that is never made has a divider whose loop does not end. -/
theorem ofSource_unending {source : Text} (moderate : config.Moderate)
    (valid : config.validate = .ok ())
    (endless : ofSource source config scale >>= image = .error .unending) :
    ∃ shapes, Layout.shapes config (Source.chart source) = .ok shapes ∧ ∃ shape ∈ shapes,
      shape.isEdge = true ∧ ∃ loop, shape.dashLoop scale = .ok loop ∧ ¬loop.Ends 0 := by
  obtain ⟨shapes, placed, -⟩ := Layout.shapes_moderate moderate valid (Source.chart source)
  refine ⟨shapes, placed, ?_⟩
  cases page : pageSide config scale with
  | error fault =>
    simp only [ofSource, ofShapes, placed, page, bind, Except.bind, Except.error.injEq] at endless
    exact absurd (page.trans (congrArg _ endless)) (pageSide_terminates config scale).ended
  | ok side =>
    simp only [ofSource, ofShapes, placed, page, bind, Except.bind, pure, Except.pure] at endless
    have fault : (drawShapes scale shapes).fault = some .unending := by
      unfold image at endless
      split at endless
      · next fault found => rw [found, Except.error.inj endless]
      · dsimp only at endless
        split_ifs at endless
        cases endless
    obtain ⟨units, positive, amount⟩ := pageSide_scale page
    by_contra none
    refine drawShapes_within amount positive (fun shape member isEdge loop made => ?_) fault
    by_contra beyond
    obtain ⟨dash, gap, regular⟩ := shape_regular amount positive made
    exact none ⟨shape, member, isEdge, loop, made, mt (Dash.Loop.ends_iff regular).1.1 beyond⟩

theorem shapes_needs {factor : Binary64} (placed : Layout.shapes config chart = .ok shapes)
    (moderate : config.Moderate) (converts : scale.toDouble = .ok factor)
    (small : scale.Within (2 ^ 50)) :
    (drawShapes scale shapes).Needs (chart.Scales (.double factor)) := by
  obtain ⟨valid, -⟩ := Layout.shapes_ok placed
  obtain ⟨_, again, shapesModerate⟩ := Layout.shapes_moderate moderate valid chart
  cases placed.symm.trans again
  have needs := drawShapes_needs shapesModerate converts small
  rwa [Layout.shapes_measured placed] at needs

/-- Of a chart whose lines and letters have finite sizes, everything is drawn unless a divider is
out of reach, and then the drawing does not end. -/
theorem drawShapes_ends {factor : Binary64} (placed : Layout.shapes config chart = .ok shapes)
    (amount : scale.IsAmount units) (positive : 0 < units) (moderate : config.Moderate)
    (converts : scale.toDouble = .ok factor) (small : scale.Within (2 ^ 50))
    (scales : chart.Scales (.double factor)) :
    (WithinReach shapes scale ∧ (drawShapes scale shapes).fault = none) ∨
      (¬WithinReach shapes scale ∧ (drawShapes scale shapes).fault = some .unending) := by
  have measured := (shapes_needs placed moderate converts small).sufficient scales
  by_cases within : WithinReach shapes scale
  · exact .inl ⟨within, measured.resolve_right (drawShapes_within amount positive within)⟩
  · exact .inr ⟨within, measured.resolve_left (mt (within_of_drawn placed amount positive) within)⟩

end Preview

/-- The loop that draws a divider ends exactly when the divider is within reach of its dashes, and
only then the preview is complete. The dividers are within reach at every scale when the canvas and
its padding are at most `2 ^ 52`. -/
theorem Chart.preview_within_reach {chart : Chart} {config : LayoutConfig} {scale : Number}
    {preview : Preview} (previewed : chart.previewAt config scale = .ok preview) :
    ∃ shapes, Layout.shapes config chart = .ok shapes ∧
      (∀ shape ∈ shapes, shape.isEdge = true → ∀ loop, shape.dashLoop scale = .ok loop →
        (loop.Ends 0 ↔ loop.WithinReach)) ∧
      (Preview.WithinReach shapes scale → preview.drawing.fault ≠ some .unending) ∧
      (preview.drawing.fault = none → Preview.WithinReach shapes scale) ∧
      (config.canvasSize.le (.integer (2 ^ 52)) = true →
        config.padding.le (.integer (2 ^ 52)) = true → Preview.WithinReach shapes scale) ∧
      ∀ factor, config.Moderate → scale.toDouble = .ok factor → scale.Within (2 ^ 50) →
        (preview.drawing.fault = none ↔
          chart.Scales (.double factor) ∧ Preview.WithinReach shapes scale) ∧
        (chart.Scales (.double factor) → ¬Preview.WithinReach shapes scale →
          preview.drawing.fault = some .unending) := by
  obtain ⟨shapes, placed, drawn⟩ := Result.bind_ok.1 previewed
  obtain ⟨side, page, made⟩ := Result.bind_ok.1 drawn
  cases made
  obtain ⟨units, positive, amount⟩ := Preview.pageSide_scale page
  refine ⟨shapes, placed, ?_, ?_, ?_, ?_, ?_⟩
  · intro shape _ _ loop made
    obtain ⟨dash, gap, regular⟩ := Preview.shape_regular amount positive made
    exact (Dash.Loop.ends_iff regular).1
  · exact Preview.drawShapes_within amount positive
  · exact Preview.within_of_drawn placed amount positive
  · intro canvasLimit paddingLimit shape member isEdge loop made
    obtain ⟨valid, -⟩ := Layout.shapes_ok placed
    obtain ⟨canvas, padding, canvasAmount, paddingAmount⟩ := LayoutConfig.validate_amounts valid
    obtain ⟨frame, edges⟩ := Layout.shapes_edges placed
    have limit : (Number.integer (2 ^ 52)).IsAmount (2 ^ 52 * unitsPerOne) :=
      Int.natCast_mul (2 ^ 52) unitsPerOne
    exact frame.dividers_within amount positive canvasAmount paddingAmount
      ((canvasAmount.le_iff limit).1 canvasLimit) ((paddingAmount.le_iff limit).1 paddingLimit)
      (edges ▸ List.mem_filter.2 ⟨member, isEdge⟩) made
  · intro factor moderate converts small
    have ends := Preview.drawShapes_ends placed amount positive moderate converts small
    refine ⟨⟨fun done => ?_, fun ⟨scales, within⟩ => ?_⟩, fun scales beyond => ?_⟩
    · exact ⟨(Preview.shapes_needs placed moderate converts small).necessary done,
        Preview.within_of_drawn placed amount positive done⟩
    · exact ((ends scales).resolve_right fun beyond => beyond.1 within).2
    · exact ((ends scales).resolve_left fun within => beyond within.1).2

/-- The loops of the usual canvas end, and the chart is drawn. -/
theorem Chart.preview_within_reach_usual :
    let config : LayoutConfig := {}
    let scale : Number := .double 1
    ∃ preview shapes, ({} : Chart).previewAt config scale = .ok preview ∧
      Layout.shapes config {} = .ok shapes ∧ preview.drawing.fault = none ∧
      ∀ shape ∈ shapes, shape.isEdge = true → ∀ loop, shape.dashLoop scale = .ok loop →
        loop.Ends 0 := by
  intro config scale
  have valid : config.validate = .ok () := by decide +kernel
  have moderate : config.Moderate :=
    LayoutConfig.moderate_of_within (Number.within_integer (by decide))
      (Number.within_integer (by decide))
  have page : Preview.pageSide config scale = .ok 800 := by decide +kernel
  have scales : ({} : Chart).Scales scale := by decide +kernel
  obtain ⟨shapes, placed, -⟩ := Layout.shapes_moderate moderate valid {}
  have previewed : ({} : Chart).previewAt config scale =
      .ok ⟨800, Preview.drawShapes scale shapes⟩ :=
    Result.bind_ok.2 ⟨shapes, placed, Result.bind_ok.2 ⟨800, page, rfl⟩⟩
  obtain ⟨_, again, ends, -, -, usual, drawn⟩ := Chart.preview_within_reach previewed
  cases placed.symm.trans again
  have within := usual (by decide +kernel) (by decide +kernel)
  obtain ⟨complete, -⟩ := drawn 1 moderate rfl (Number.within_double _ _)
  exact ⟨_, shapes, previewed, placed, complete.2 ⟨scales, within⟩,
    fun shape member isEdge loop made =>
      (ends shape member isEdge loop made).2 (within shape member isEdge loop made)⟩

/-- The loop that draws the upright divider of a layout. -/
def LayoutConfig.dividerLoop (config : LayoutConfig) (scale : Number) : Except Fault Dash.Loop := do
  let middle ← config.middle
  let far ← config.padding.add config.canvasSize
  (Layout.edge Style.divider (middle, config.padding) (middle, far)).dashLoop scale

/-- A chart in finite sizes is never drawn to its end where a power of two separates the dashes of
the divider from its length. -/
theorem Chart.previewAt_unending {chart : Chart} {config : LayoutConfig} {factor : Binary64}
    {side : Int} {loop : Dash.Loop} {exponent : Nat} (valid : config.validate = .ok ())
    (moderate : config.Moderate) (page : Preview.pageSide config (.double factor) = .ok side)
    (scales : chart.Scales (.double factor))
    (made : config.dividerLoop (.double factor) = .ok loop)
    (short : loop.dash.extent ≤ 2 ^ exponent)
    (long : 2 ^ (53 + exponent) < loop.limit.extent) :
    ∃ preview, chart.previewAt config (.double factor) = .ok preview ∧ preview.side = side ∧
      preview.drawing.fault = some .unending ∧
      ∃ shapes, Layout.shapes config chart = .ok shapes ∧ ∃ shape ∈ shapes,
        shape.isEdge = true ∧ shape.dashLoop (.double factor) = .ok loop ∧ ¬loop.Ends 0 := by
  obtain ⟨shapes, placed, -⟩ := Layout.shapes_moderate moderate valid chart
  obtain ⟨frame, edges⟩ := Layout.shapes_edges placed
  obtain ⟨units, positive, amount⟩ := Preview.pageSide_scale page
  simp only [LayoutConfig.dividerLoop, Result.bind_ok] at made
  obtain ⟨middle, centre, far, farEnd, made⟩ := made
  cases frame.centre.symm.trans centre
  cases frame.farEnd.symm.trans farEnd
  have divider : Layout.edge Style.divider (frame.middle, config.padding)
      (frame.middle, frame.far) ∈ shapes.filter Shape.isEdge := edges ▸ List.mem_cons_self ..
  obtain ⟨member, isEdge⟩ := List.mem_filter.1 divider
  obtain ⟨dash, gap, regular⟩ := Preview.shape_regular amount positive made
  have beyond := Dash.Loop.not_withinReach short long
  have ends := Preview.drawShapes_ends placed amount positive moderate rfl
    (Number.within_double _ _) scales
  obtain ⟨-, endless⟩ :=
    ends.resolve_left fun within => beyond (within.1 _ member isEdge loop made)
  exact ⟨⟨side, Preview.drawShapes (.double factor) shapes⟩,
    Result.bind_ok.2 ⟨shapes, placed, Result.bind_ok.2 ⟨side, page, rfl⟩⟩, rfl, endless, shapes,
    placed, _, member, isEdge, made, mt (Dash.Loop.ends_iff regular).1.1 beyond⟩

/-- No chart is drawn to its end on a canvas of `10 ^ 18` at a scale of `10 ^ -15`. -/
theorem Chart.previewAt_large {chart : Chart}
    (scales : chart.Scales (.double (.ofQuotient false 1 (10 ^ 15)))) :
    let large : LayoutConfig := { canvasSize := .double (.ofNat (10 ^ 18)) }
    let tiny : Number := .double (.ofQuotient false 1 (10 ^ 15))
    ∃ preview, chart.previewAt large tiny = .ok preview ∧ preview.side = 1000 ∧
      preview.drawing.fault = some .unending ∧
      ∃ shapes, Layout.shapes large chart = .ok shapes ∧ ∃ shape ∈ shapes,
        shape.isEdge = true ∧ ∃ loop, shape.dashLoop tiny = .ok loop ∧ ¬loop.Ends 0 := by
  intro large tiny
  have valid : large.validate = .ok () := by decide +kernel
  have moderate : large.Moderate :=
    LayoutConfig.moderate_of_within (Number.within_double _ _) (Number.within_integer (by decide))
  have page : Preview.pageSide large tiny = .ok 1000 := by decide +kernel
  have lengths : (large.dividerLoop tiny).map (fun loop =>
      decide (loop.dash.extent ≤ 2 ^ 1027 ∧ 2 ^ (53 + 1027) < loop.limit.extent)) = .ok true := by
    decide +kernel
  obtain ⟨loop, made, apart⟩ := Result.map_ok.1 lengths
  obtain ⟨short, long⟩ := of_decide_eq_true apart
  obtain ⟨preview, previewed, side, endless, shapes, placed, shape, member, isEdge, drawn, never⟩ :=
    previewAt_unending valid moderate page scales made short long
  exact ⟨preview, previewed, side, endless, shapes, placed, shape, member, isEdge, loop, drawn,
    never⟩

/-- A canvas of `10 ^ 18` at a scale of `10 ^ -15` has a page of 1000 pixels a side, on which the
dashes of a divider do not get beyond 64. A canvas of one at a scale of `10 ^ 308` has a page too,
but the width of its lines is infinite. -/
theorem Chart.preview_never_drawn :
    let large : LayoutConfig := { canvasSize := .double (.ofNat (10 ^ 18)) }
    let tiny : Number := .double (.ofQuotient false 1 (10 ^ 15))
    let narrow : LayoutConfig := { canvasSize := .double 1, padding := .double 0 }
    let huge : Number := .double (.ofNat (10 ^ 308))
    let chart : Chart := { title := [] }
    (large.validate = .ok () ∧ tiny.isFinite = .ok true ∧ Number.lt 0 tiny = true ∧
      ∃ preview, chart.previewAt large tiny = .ok preview ∧ preview.side = 1000 ∧
        preview.drawing.fault = some .unending ∧
        ∃ shapes, Layout.shapes large chart = .ok shapes ∧ ∃ shape ∈ shapes,
          shape.isEdge = true ∧ ∃ loop, shape.dashLoop tiny = .ok loop ∧ ¬loop.Ends 0) ∧
    (narrow.validate = .ok () ∧ huge.isFinite = .ok true ∧ Number.lt 0 huge = true ∧
      ∃ preview, chart.previewAt narrow huge = .ok preview ∧
        preview.drawing.fault = some .infinityNotInteger) := by
  intro large tiny narrow huge chart
  have failed : (chart.previewAt narrow huge).map (fun preview => preview.drawing.fault) =
      .ok (some .infinityNotInteger) := by decide +kernel
  refine ⟨⟨by decide +kernel, by decide +kernel, by decide +kernel,
    Chart.previewAt_large (by decide +kernel)⟩,
    by decide +kernel, by decide +kernel, by decide +kernel, ?_⟩
  cases previewed : chart.previewAt narrow huge with
  | error fault =>
    rw [previewed] at failed
    cases failed
  | ok preview =>
    rw [previewed] at failed
    exact ⟨preview, rfl, Except.ok.inj failed⟩

end QuadrantChart
