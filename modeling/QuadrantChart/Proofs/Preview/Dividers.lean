/-
This file proves which lines the preview of a chart consists of: the dashes of its two dividers.
-/

import QuadrantChart.Proofs.Layout.WholeCanvas
import QuadrantChart.Proofs.Preview.Dashes
import QuadrantChart.Proofs.Preview.Sizes

namespace QuadrantChart

open Binary64 (ofNat ofQuotient)

def DrawingCall.isLine : DrawingCall → Bool
  | .line .. => true
  | _ => false

namespace Preview

variable {scale : Number} {shape : Shape} {calls : List DrawingCall}

/-- Only edges are drawn as lines. -/
theorem drawShape_lineless (isVertex : ¬shape.isEdge = true)
    (done : drawShape scale shape = { calls }) : calls.filter DrawingCall.isLine = [] := by
  have text {written : List DrawingCall}
      (drawn : textCalls shape (.ofStyle shape.style) scale = .ok written) :
      written.filter DrawingCall.isLine = [] := by
    rcases textCalls_ok drawn with ⟨-, rfl⟩ | ⟨x, y, color, size, -, -, rfl⟩ <;> rfl
  obtain ⟨width, drawn⟩ := drawShape_measured done
  rw [if_neg isVertex] at drawn
  split_ifs at drawn
  · exact text (Drawing.ofCalls_done.1 drawn)
  · obtain ⟨early, late, box, written, rfl⟩ := Drawing.append_done.1 drawn
    rw [List.filter_append, text (Drawing.ofCalls_done.1 written), List.append_nil]
    have made := Drawing.ofCalls_done.1 box
    simp only [boxCalls, Result.bind_ok] at made
    obtain ⟨_, -, _, -, _, -, _, -, _, -, _, -, corners, -, made⟩ := made
    split_ifs at made <;> cases made <;> rfl

/-- The lines of a drawing are those of its edges. -/
theorem drawShapes_lines {shapes : List Shape} (done : drawShapes scale shapes = { calls }) :
    calls.filter DrawingCall.isLine = (shapes.filter Shape.isEdge).flatMap fun shape =>
      (drawShape scale shape).calls.filter DrawingCall.isLine := by
  induction shapes generalizing calls with
  | nil =>
    cases done
    rfl
  | cons shape shapes inductionHypothesis =>
    obtain ⟨early, late, first, others, rfl⟩ := Drawing.append_done.1 done
    rw [List.filter_append, inductionHypothesis others]
    by_cases isEdge : shape.isEdge = true
    · rw [List.filter_cons_of_pos isEdge, List.flatMap_cons, first]
    · rw [List.filter_cons_of_neg isEdge, drawShape_lineless isEdge first, List.nil_append]

/-- Shapes of which each is drawn are drawn together. -/
theorem drawShapes_drawn {shapes : List Shape}
    (each : ∀ shape ∈ shapes, (drawShape scale shape).fault = none) :
    (drawShapes scale shapes).fault = none := by
  induction shapes with
  | nil => rfl
  | cons shape shapes inductionHypothesis =>
    obtain ⟨first, others⟩ := List.forall_mem_cons.1 each
    exact Drawing.append_fault.2 ⟨first, inductionHypothesis others⟩

end Preview

namespace Layout

variable {config : LayoutConfig} {chart : Chart}

/-- The dividers are the only edges of a chart. -/
theorem shapes_edges {shapes : List Shape} (placed : Layout.shapes config chart = .ok shapes) :
    ∃ frame : FramePlace config, shapes.filter Shape.isEdge = frame.dividers := by
  obtain ⟨-, frame, points, each, rfl⟩ := shapes_ok placed
  have vertices : points.flatten.filter Shape.isEdge = [] := by
    clear placed
    generalize chart.points = all at each
    induction each with
    | nil => rfl
    | cons first others inductionHypothesis =>
      obtain ⟨place, rfl⟩ := first
      rw [List.flatten_cons, List.filter_append, inductionHypothesis]
      rfl
  refine ⟨frame, ?_⟩
  rw [List.filter_append, vertices, List.append_nil]
  rfl

end Layout

namespace LayoutConfig.IsWhole

variable {config : LayoutConfig} {scale : Number} {size margin factor : Nat}
  (whole : config.IsWhole scale size margin factor)
include whole

/-- Along the canvas, dividers go through whole numbers. -/
theorem along {far : Number} (farEnd : config.padding.add config.canvasSize = .ok far) :
    ∃ start stop, config.padding.mul scale = .ok start ∧ far.mul scale = .ok stop ∧
      Preview.Course start stop (factor * size) (ofNat (factor * size)) fun position =>
        ofNat (factor * margin + position) := by
  obtain ⟨start, startScaled, startWhole⟩ := whole.scaled whole.padding (Nat.le_add_right _ _)
  obtain ⟨stop, stopScaled, stopWhole⟩ := whole.scaled (whole.far farEnd) (Nat.le_refl _)
  have positive := Nat.mul_pos whole.factorPositive whole.sizePositive
  have length : factor * (margin + size) - factor * margin = factor * size := by
    rw [Nat.mul_add, Nat.add_sub_cancel_left]
  have small := whole.small
  have course := Preview.Course.along startWhole stopWhole (by omega) (by omega)
  rw [length] at course
  exact ⟨start, stop, startScaled, stopScaled, course⟩

/-- Across the canvas, dividers stay in the middle. -/
theorem level :
    let middle := ofQuotient false (factor * (2 * margin + size)) 2
    Preview.Course (.double middle) (.double middle) (factor * size) (middle - middle)
      fun _ => middle := by
  have small := whole.size_small
  exact Preview.Course.level whole.middle_small
    (Nat.mul_pos whole.factorPositive whole.sizePositive) (by omega)

end LayoutConfig.IsWhole

namespace DrawingCall

/-- A dash of the divider from top to bottom, counted from the top. -/
def downDash (size margin factor index : Nat) : DrawingCall :=
  let middle := ofQuotient false (factor * (2 * margin + size)) 2
  .line ⟨middle, ofNat (factor * (margin + 10 * index)), middle,
    ofNat (factor * (margin + min (10 * index + 6) size))⟩ "#b0b0b0".toList (2 * factor : Nat)

/-- A dash of the divider from left to right, counted from the left. -/
def acrossDash (size margin factor index : Nat) : DrawingCall :=
  let middle := ofQuotient false (factor * (2 * margin + size)) 2
  .line ⟨ofNat (factor * (margin + 10 * index)), middle,
    ofNat (factor * (margin + min (10 * index + 6) size)), middle⟩ "#b0b0b0".toList
    (2 * factor : Nat)

end DrawingCall

namespace Preview

open Layout (FramePlace)

variable {config : LayoutConfig} {scale : Number} {size margin factor : Nat}

/-- An edge in the style of a divider is drawn in dashes. -/
theorem drawShape_divider (whole : scale.IsWhole factor) (positive : 0 < factor)
    (small : factor ≤ 2 ^ 50) {x y x' y' startX startY stopX stopY : Number}
    (xScaled : x.mul scale = .ok startX) (yScaled : y.mul scale = .ok startY)
    (widthScaled : x'.mul scale = .ok stopX) (heightScaled : y'.mul scale = .ok stopY) :
    drawShape scale (Layout.edge Style.divider (x, y) (x', y')) =
      .ofCalls (dashedCalls (startX, startY) (stopX, stopY) "#b0b0b0".toList (2 * factor : Nat)
        scale) := by
  obtain ⟨-, -, dashed, color⟩ := Style.divider_items
  have two : (Number.double 2).IsWhole 2 := Binary64.ofNat_amount (by decide)
  have measured : measure (.ofStyle Style.divider) "strokeWidth".toList 1 scale =
      .ok (2 * factor : Nat) :=
    measure_ok.2 ⟨2, Style.divider_number,
      two.sizeAt whole (by decide) (by omega) (by omega) (by omega)⟩
  have drawn : drawShape scale (Layout.edge Style.divider (x, y) (x', y')) =
      .ofCalls (edgeCalls (Layout.edge Style.divider (x, y) (x', y')) (.ofStyle Style.divider)
        (2 * factor : Nat) scale) := by
    unfold drawShape
    extract_lets style text
    have sameStyle : style = .ofStyle Style.divider := rfl
    rw [sameStyle, measured]
    exact if_pos rfl
  rw [drawn]
  simp only [edgeCalls, Layout.edge, xScaled, yScaled, widthScaled, heightScaled, dashed, color,
    bind, Except.bind, if_true, Option.getD_some]

/-- The dashes of a divider of a canvas, whichever way it goes. -/
theorem dashedCalls_canvas (whole : config.IsWhole scale size margin factor)
    {start stop : Number × Number} {acrossStep downStep : Binary64} {x y : Nat → Binary64}
    (across : Course start.1 stop.1 (factor * size) acrossStep x)
    (down : Course start.2 stop.2 (factor * size) downStep y)
    (measured : Binary64.length acrossStep downStep = ofNat (factor * size)) (color : Text)
    (width : Int) :
    dashedCalls start stop color width scale = .ok ((List.range ((size + 9) / 10)).map fun index =>
      .line ⟨x (factor * (10 * index)), y (factor * (10 * index)),
        x (factor * min (10 * index + 6) size), y (factor * min (10 * index + 6) size)⟩
        color width) := by
  have factorSmall := whole.factor_small
  have bounded := whole.size_small
  have period (count : Nat) : 10 * factor * count = factor * (10 * count) := by
    rw [Nat.mul_comm 10, Nat.mul_assoc]
  have dashes : (size + 9) / 10 = (size - 1) / 10 + 1 := by
    have positive := whole.sizePositive
    omega
  have below : 10 * factor * ((size - 1) / 10) < factor * size := by
    rw [period]
    have positive := whole.sizePositive
    exact Nat.mul_lt_mul_of_pos_left (by omega) whole.factorPositive
  have past : factor * size ≤ 10 * factor * ((size - 1) / 10 + 1) := by
    rw [period]
    exact Nat.mul_le_mul_left _ (by omega)
  have stop (index : Nat) : min (factor * (10 * index) + 6 * factor) (factor * size) =
      factor * min (10 * index + 6) size := by
    rw [← Nat.mul_min_mul_left, Nat.mul_add, Nat.mul_comm 6]
  have drawn := dashedCalls_whole across down measured whole.scale whole.factorPositive
    (Nat.mul_pos whole.factorPositive whole.sizePositive) (by omega) _ below past color width
  simp only [period, stop, ← dashes] at drawn
  exact drawn

theorem drawShape_down (whole : config.IsWhole scale size margin factor)
    (frame : FramePlace config) :
    drawShape scale (Layout.edge Style.divider (frame.middle, config.padding)
      (frame.middle, frame.far)) =
        { calls := (List.range ((size + 9) / 10)).map
            (DrawingCall.downDash size margin factor) } := by
  obtain ⟨start, stop, startScaled, stopScaled, along⟩ := whole.along frame.farEnd
  have middleScaled := whole.middle_scaled frame.centre
  have small := whole.size_small
  have measured := (Binary64.halves_amount whole.middle_small).sub_self.length_down
    (by omega : factor * size ≤ 2 ^ 53)
  rw [drawShape_divider whole.scale whole.factorPositive whole.factor_small middleScaled startScaled
    middleScaled stopScaled, dashedCalls_canvas whole whole.level along measured]
  simp only [← Nat.mul_add]
  rfl

theorem drawShape_across (whole : config.IsWhole scale size margin factor)
    (frame : FramePlace config) :
    drawShape scale (Layout.edge Style.divider (config.padding, frame.middle)
      (frame.far, frame.middle)) =
        { calls := (List.range ((size + 9) / 10)).map
            (DrawingCall.acrossDash size margin factor) } := by
  obtain ⟨start, stop, startScaled, stopScaled, along⟩ := whole.along frame.farEnd
  have middleScaled := whole.middle_scaled frame.centre
  have small := whole.size_small
  have measured := (Binary64.halves_amount whole.middle_small).sub_self.length_across
    (by omega : factor * size ≤ 2 ^ 53)
  rw [drawShape_divider whole.scale whole.factorPositive whole.factor_small startScaled middleScaled
    stopScaled middleScaled, dashedCalls_canvas whole along whole.level measured]
  simp only [← Nat.mul_add]
  rfl

end Preview

namespace LayoutConfig.IsWhole

variable {config : LayoutConfig} {scale : Number} {size margin factor : Nat}
  (whole : config.IsWhole scale size margin factor)
include whole

/-- The page has a small whole side. -/
theorem page :
    Preview.pageSide config scale = .ok ((size + 2 * margin) * factor : Nat) ∧
      (size + 2 * margin) * factor ≤ 2 ^ 53 := by
  have farSmall := whole.far_small
  have factorSmall := whole.factor_small
  have bounded : (size + 2 * margin) * factor ≤ 2 ^ 53 :=
    calc
      (size + 2 * margin) * factor ≤ 2 * (margin + size) * factor :=
        Nat.mul_le_mul_right _ (by omega)
      _ = 2 * (factor * (margin + size)) := by rw [Nat.mul_assoc, Nat.mul_comm factor]
      _ ≤ 2 * 2 ^ 50 := Nat.mul_le_mul_left _ whole.small
      _ ≤ 2 ^ 53 := by decide
  have two : (2 : Number).IsWhole 2 := Number.isWhole_integer.2 rfl
  obtain ⟨twice, doubled, twiceWhole⟩ := two.mul whole.padding (by decide) (by omega) (by omega)
  obtain ⟨total, summed, totalWhole⟩ := whole.canvasSize.add twiceWhole (by omega)
  have positive : scale.le 0 = false := by
    rw [← Bool.not_eq_true, whole.scale.le_iff Number.zero_whole]
    exact Nat.not_le.2 whole.factorPositive
  have side : 0 < (size + 2 * margin) * factor :=
    Nat.mul_pos (Nat.add_pos_left whole.sizePositive _) whole.factorPositive
  have sized := totalWhole.sizeAt whole.scale (by omega) (by omega) bounded side
  exact ⟨(Preview.pageSide_ok positive).2 ⟨total, Result.bind_ok.2 ⟨twice, doubled, summed⟩, sized⟩,
    bounded⟩

end LayoutConfig.IsWhole

/-- The letters of a chart have small whole sizes. -/
theorem Chart.lettering_whole (chart : Chart) :
    ∀ font ∈ chart.lettering, ∃ size ≤ 24, font.1 = ofNat size := by
  simp only [lettering, frameLettering, List.forall_mem_append, List.forall_mem_cons,
    List.forall_mem_map]
  exact ⟨⟨⟨24, by decide, rfl⟩, ⟨20, by decide, rfl⟩, ⟨20, by decide, rfl⟩, ⟨20, by decide, rfl⟩,
    ⟨20, by decide, rfl⟩, ⟨12, by decide, rfl⟩, ⟨12, by decide, rfl⟩, ⟨12, by decide, rfl⟩,
    ⟨12, by decide, rfl⟩, by simp⟩, fun _ _ => ⟨11, by decide, rfl⟩⟩

/-- The preview of a chart at a scale. -/
def Chart.previewAt (chart : Chart) (config : LayoutConfig) (scale : Number) :
    Except Fault Preview := do
  Preview.ofShapes (← Layout.shapes config chart) config scale

namespace LayoutConfig.IsWhole

variable {config : LayoutConfig} {scale : Number} {size margin factor : Nat}
  (whole : config.IsWhole scale size margin factor)
include whole

/-- Texts whose lengths are not beyond all floating point numbers can be written at the scale. -/
theorem scales {value : Binary64} (converts : scale.toDouble = .ok value) {chart : Chart}
    (lengths : ∀ font ∈ chart.lettering, (Number.integer font.2.length).Convertible) :
    chart.Scales (.double value) := by
  have factorSmall := whole.factor_small
  obtain ⟨_, again, (scaleWhole : (Number.double _).IsWhole factor)⟩ :=
    whole.scale.toDouble (by omega)
  cases converts.symm.trans again
  have scaled (part : Nat) (small : part ≤ 24) :
      (Number.double (ofNat part)).ScalesBy (.double value) := by
    have partWhole : (Number.double (ofNat part)).IsWhole part := Binary64.ofNat_amount (by omega)
    refine partWhole.scalesBy scaleWhole ?_
    calc
      part * factor ≤ 24 * 2 ^ 50 := Nat.mul_le_mul small factorSmall
      _ ≤ Number.finiteLimit := by decide
  refine ⟨scaled 2 (by decide), fun font member nonempty => ?_⟩
  obtain ⟨part, small, letters⟩ := chart.lettering_whole font member
  rw [letters]
  exact ⟨scaled part small, lengths font member⟩

/-- The preview of every chart in moderate dimensions has an image. -/
theorem previewAt_made (moderate : config.Moderate) {chart : Chart}
    (lengths : ∀ font ∈ chart.lettering, (Number.integer font.2.length).Convertible) :
    ∃ preview file, chart.previewAt config scale = .ok preview ∧ preview.image = .ok file := by
  have factorSmall := whole.factor_small
  obtain ⟨shapes, placed, shapesModerate⟩ := Layout.shapes_moderate moderate whole.valid chart
  obtain ⟨value, converts, -⟩ := whole.scale.toDouble (by omega)
  have isMeasured := (Layout.shapes_measured placed).2 (whole.scales converts lengths)
  obtain ⟨frame, edges⟩ := Layout.shapes_edges placed
  have drawn : (Preview.drawShapes scale shapes).fault = none := by
    refine Preview.drawShapes_drawn fun shape member => ?_
    by_cases isEdge : shape.isEdge = true
    · have divider : shape ∈ frame.dividers := edges ▸ List.mem_filter.2 ⟨member, isEdge⟩
      rcases List.mem_cons.1 divider with rfl | other
      · rw [Preview.drawShape_down whole]
      · cases List.mem_singleton.1 other
        rw [Preview.drawShape_across whole]
    · exact (Preview.drawShape_vertex isEdge (shapesModerate shape member) converts
        (whole.scale.within.mono factorSmall)).2 (isMeasured shape member)
  obtain ⟨page, bounded⟩ := whole.page
  have modest : Number.IsModest ((size + 2 * margin) * factor : Nat) := by
    have limit : Number.IsModest (2 ^ 53 : Nat) := by
      unfold Number.IsModest
      decide +kernel
    refine limit.mono ?_
    rwa [Int.natAbs_natCast, Int.natAbs_natCast]
  have previewed : chart.previewAt config scale =
      .ok ⟨((size + 2 * margin) * factor : Nat), Preview.drawShapes scale shapes⟩ := by
    simp only [Chart.previewAt, Preview.ofShapes, placed, page, bind, Except.bind, pure,
      Except.pure]
  have imaged : ∃ file, Preview.image ⟨((size + 2 * margin) * factor : Nat),
      Preview.drawShapes scale shapes⟩ = .ok file := Preview.image_made modest drawn
  obtain ⟨file, image⟩ := imaged
  exact ⟨_, file, previewed, image⟩

/-- The lines of a preview are those of its dividers. -/
theorem previewAt_lines {chart : Chart} {preview : Preview}
    (previewed : chart.previewAt config scale = .ok preview)
    (done : preview.drawing.fault = none) :
    preview.drawing.calls.filter DrawingCall.isLine =
      (List.range ((size + 9) / 10)).map (DrawingCall.downDash size margin factor) ++
        (List.range ((size + 9) / 10)).map (DrawingCall.acrossDash size margin factor) := by
  obtain ⟨shapes, placed, drawn⟩ := Result.bind_ok.1 previewed
  obtain ⟨side, -, made⟩ := Result.bind_ok.1 drawn
  cases made
  obtain ⟨frame, edges⟩ := Layout.shapes_edges placed
  have complete : Preview.drawShapes scale shapes =
      { calls := (Preview.drawShapes scale shapes).calls } := by
    change (Preview.drawShapes scale shapes).fault = none at done
    rw [← done]
  have lines (count : Nat) (call : Nat → DrawingCall)
      (isLine : ∀ index, (call index).isLine = true) :
      ((List.range count).map call).filter DrawingCall.isLine = (List.range count).map call := by
    rw [List.filter_eq_self]
    intro member found
    obtain ⟨index, -, rfl⟩ := List.mem_map.1 found
    exact isLine index
  change (Preview.drawShapes scale shapes).calls.filter DrawingCall.isLine = _
  rw [Preview.drawShapes_lines complete, edges, Layout.FramePlace.dividers, List.flatMap_cons,
    List.flatMap_cons, List.flatMap_nil, List.append_nil, Preview.drawShape_down whole,
    Preview.drawShape_across whole]
  simp only
  rw [lines _ _ fun _ => rfl, lines _ _ fun _ => rfl]

end LayoutConfig.IsWhole

/-- Where a canvas and the scale are whole numbers, the lines of a preview are the dashes of its
dividers, in exact numbers. There is one dash for ten of the size, whatever the scale is. -/
theorem Chart.dividers_dashed (chart : Chart) {config : LayoutConfig} {scale : Number}
    {size margin factor : Nat} (whole : config.IsWhole scale size margin factor) :
    (config.Moderate →
      (∀ font ∈ chart.lettering, (Number.integer font.2.length).Convertible) →
      ∃ preview file, chart.previewAt config scale = .ok preview ∧ preview.image = .ok file) ∧
    (∀ preview, chart.previewAt config scale = .ok preview → preview.drawing.fault = none →
      preview.drawing.calls.filter DrawingCall.isLine =
        (List.range ((size + 9) / 10)).map (DrawingCall.downDash size margin factor) ++
          (List.range ((size + 9) / 10)).map (DrawingCall.acrossDash size margin factor)) ∧
    (∃ units, (ofQuotient false (factor * (2 * margin + size)) 2).IsAmount units ∧
      2 * units = factor * (2 * margin + size) * Binary64.unitsPerOne) ∧
    ∀ position ≤ size, (ofNat (factor * (margin + position))).IsAmount
      (factor * (margin + position) * Binary64.unitsPerOne) := by
  refine ⟨fun moderate lengths => whole.previewAt_made moderate lengths,
    fun preview previewed done => whole.previewAt_lines previewed done, ?_, ?_⟩
  · refine ⟨_, Binary64.halves_amount whole.middle_small, ?_⟩
    rw [Nat.mul_left_comm, Binary64.half_one]
  · intro position inside
    have bounded : factor * (margin + position) ≤ factor * (margin + size) :=
      Nat.mul_le_mul_left _ (by omega)
    have small := whole.small
    exact Binary64.ofNat_amount (by omega)

/-- A canvas of 25 has three dashes in each direction, of which the last ones are shorter. -/
theorem Chart.dividers_dashed_short :
    let config : LayoutConfig := { canvasSize := 25, padding := 3 }
    let chart := Source.chart "title Effort\nA: [0.2, 0.7]".toList
    let color := "#b0b0b0".toList
    (config.IsWhole 2 25 3 2 ∧ config.Moderate ∧
      ∀ font ∈ chart.lettering, (Number.integer font.2.length).Convertible) ∧
    ∃ preview file, chart.previewAt config 2 = .ok preview ∧ preview.image = .ok file ∧
      preview.drawing.calls.filter DrawingCall.isLine =
        [.line ⟨31, 6, 31, 18⟩ color 4, .line ⟨31, 26, 31, 38⟩ color 4,
          .line ⟨31, 46, 31, 56⟩ color 4, .line ⟨6, 31, 18, 31⟩ color 4,
          .line ⟨26, 31, 38, 31⟩ color 4, .line ⟨46, 31, 56, 31⟩ color 4] := by
  intro config chart color
  have whole : config.IsWhole 2 25 3 2 :=
    ⟨Number.isWhole_integer.2 rfl, Number.isWhole_integer.2 rfl, Number.isWhole_integer.2 rfl,
      by decide, by decide, by decide⟩
  have moderate : config.Moderate := LayoutConfig.moderate_of_within
    (Number.within_integer (by decide)) (Number.within_integer (by decide))
  have lengths : ∀ font ∈ chart.lettering, (Number.integer font.2.length).Convertible := by
    decide +kernel
  obtain ⟨made, lines, -, -⟩ := chart.dividers_dashed whole
  obtain ⟨preview, file, previewed, image⟩ := made moderate lengths
  have done := congrArg Drawing.fault (Preview.image_ok image)
  refine ⟨⟨whole, moderate, lengths⟩, preview, file, previewed, image, ?_⟩
  rw [lines preview previewed done]
  decide +kernel

end QuadrantChart
