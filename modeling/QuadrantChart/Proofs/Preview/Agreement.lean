/-
This file proves that the preview of a chart draws what the document of the chart shows, cell by
cell.
-/

import QuadrantChart.Proofs.Preview.DrawnShape

namespace QuadrantChart

open Binary64 (Same)

/-- The preview of a chart at its own size. -/
def Chart.preview (chart : Chart) (config : LayoutConfig) : Except Fault Preview := do
  Preview.ofShapes (← Layout.shapes config chart) config (.double 1)

theorem forall₂_append {First Second : Type} {Related : First → Second → Prop}
    {early late : List First} {others : List Second}
    (each : List.Forall₂ Related (early ++ late) others) :
    ∃ earlyOthers lateOthers, others = earlyOthers ++ lateOthers ∧
      List.Forall₂ Related early earlyOthers ∧ List.Forall₂ Related late lateOthers := by
  induction early generalizing others with
  | nil => exact ⟨[], others, rfl, .nil, each⟩
  | cons first early inductionHypothesis =>
    cases each with
    | cons related each =>
      obtain ⟨earlyOthers, lateOthers, rfl, matching, rest⟩ := inductionHypothesis each
      exact ⟨_ :: earlyOthers, lateOthers, rfl, .cons related matching, rest⟩

namespace Layout

variable {config : LayoutConfig} {chart : Chart}

/-- No cell of the frame is drawn as an ellipse. -/
theorem FramePlace.drawn_ellipseless (frame : FramePlace config) {shown : Chart} {start : Nat}
    {groups : List (List DrawingCall)}
    (each : List.Forall₂ (Element.DrawnAs config shown)
      (Shape.cellsFrom start (frame.shapes chart)) groups) :
    ∀ call ∈ groups.flatten, call.isEllipse = false := by
  have round := frame.shapes_ellipseless chart
  generalize frame.shapes chart = shapes at each round
  induction shapes generalizing start groups with
  | nil =>
    cases each
    simp
  | cons shape shapes inductionHypothesis =>
    obtain ⟨first, others⟩ := List.forall_mem_cons.1 round
    cases each with
    | cons drawn each =>
      intro call member
      rcases List.mem_append.1 (List.flatten_cons ▸ member) with early | late
      · exact drawn.ellipseless (Shape.kind_ne_marker first start) call early
      · exact inductionHypothesis each others call late

/-- Each point is drawn as an ellipse and its label. -/
theorem points_drawn {points : List Point} {shapes : List (List Shape)}
    (each : List.Forall₂ (fun point shapes => ∃ place : PointPlace config point,
      shapes = [place.marker, place.label]) points shapes)
    (labelled : ∀ point ∈ points, point.label ≠ []) {start : Nat}
    {groups : List (List DrawingCall)}
    (drawn : List.Forall₂ (Element.DrawnAs config chart) (Shape.cellsFrom start shapes.flatten)
      groups) :
    ∃ pairs, groups.flatten = pairs.flatten ∧ List.Forall₂ Point.DrawnBy points pairs := by
  induction each generalizing start groups with
  | nil =>
    cases drawn
    exact ⟨[], rfl, .nil⟩
  | @cons point _ points _ first others inductionHypothesis =>
    obtain ⟨place, rfl⟩ := first
    obtain ⟨nonempty, othersLabelled⟩ := List.forall_mem_cons.1 labelled
    have markerKind := Shape.marker_kind place start
    have labelKind := Shape.text_kind place.label_style_mem (start + 1)
    have value : place.label.value = point.label := rfl
    generalize place.marker = marker at drawn markerKind
    generalize place.label = label at drawn labelKind value
    rw [List.flatten_cons] at drawn
    cases drawn with
    | cons ellipse drawn =>
      cases drawn with
      | cons text drawn =>
        obtain ⟨pairs, same, paired⟩ := inductionHypothesis othersLabelled drawn
        obtain ⟨span, fill, outline, lineWidth, rfl⟩ := ellipse.ellipse markerKind
        obtain ⟨x, y, color, size, rfl⟩ := text.text labelKind (congrArg some value) nonempty
        refine ⟨_ :: pairs, ?_, .cons ⟨span, fill, outline, lineWidth, x, y, color, size, rfl⟩
          paired⟩
        rw [List.flatten_cons, List.flatten_cons, same]
        rfl

end Layout

/-- A preview draws what the document of its chart shows, cell by cell, and so each point of a
source as an ellipse and its label. -/
theorem Chart.preview_draws_document {chart : Chart} {config : LayoutConfig} {modified : Moment}
    {text image : Text} {preview : Preview} (rendered : chart.render config modified = .ok text)
    (previewed : chart.preview config = .ok preview) (drawn : preview.image = .ok image) :
    ∃ file groups, Reader.read? text = some file ∧ preview.drawing.calls = groups.flatten ∧
      List.Forall₂ (Element.DrawnAs config chart) (file.cells.filter Element.isShapeCell) groups ∧
      ∀ source, chart = Source.chart source →
        ∃ before pairs, preview.drawing.calls = before ++ pairs.flatten ∧
          (∀ call ∈ before, call.isEllipse = false) ∧
          List.Forall₂ Point.DrawnBy chart.points pairs := by
  obtain ⟨shapes, stamp, placed, writable, -, rfl⟩ := Chart.render_ok rendered
  obtain ⟨_, again, shown⟩ := Result.bind_ok.1 previewed
  cases placed.symm.trans again
  obtain ⟨side, page, whole⟩ := Result.bind_ok.1 shown
  cases whole
  obtain ⟨groups, calls, each⟩ := Preview.drawShapes_done (Preview.image_ok drawn)
  obtain ⟨valid, frame, points, pointsPlaced, parts⟩ := Layout.shapes_ok placed
  have cells := Shape.shapes_drawn 0 each (Layout.shapes_roles placed) valid page writable
  refine ⟨_, groups, Document.read_drawing stamp shapes, calls, ?_, ?_⟩
  · rw [Document.cells_frame, Shape.cells_shapeCells]
    exact cells
  · rintro source rfl
    have labelled : ∀ point ∈ (Source.chart source).points, point.label ≠ [] :=
      fun point member => ((Source.chart_wellFormed source).points point member).labelled
    subst parts
    have split : Shape.cellsFrom 2 (frame.shapes (Source.chart source) ++ points.flatten) =
        Shape.cellsFrom 2 (frame.shapes (Source.chart source)) ++
          Shape.cellsFrom 14 points.flatten := by
      rw [Shape.cellsFrom, List.zipIdx_append, List.map_append]
      rfl
    rw [Nat.add_zero, split] at cells
    obtain ⟨frameGroups, pointGroups, rfl, frameDrawn, pointsDrawn⟩ := forall₂_append cells
    obtain ⟨pairs, same, paired⟩ := Layout.points_drawn pointsPlaced labelled pointsDrawn
    refine ⟨frameGroups.flatten, pairs, ?_, frame.drawn_ellipseless frameDrawn, paired⟩
    rw [calls, List.flatten_append, same]

/-- A source with one point is drawn in the usual dimensions. -/
theorem Chart.preview_draws_point :
    let chart := Source.chart "A: [0.25, 0.75]".toList
    ∃ text image preview file groups before pairs,
      (chart.render {} ⟨⟨2024, 5, 1⟩, 12, 0, 0, 0, none⟩ = .ok text ∧
        chart.preview {} = .ok preview ∧ preview.image = .ok image) ∧
      Reader.read? text = some file ∧ preview.drawing.calls = groups.flatten ∧
      List.Forall₂ (Element.DrawnAs {} chart) (file.cells.filter Element.isShapeCell) groups ∧
      preview.drawing.calls = before ++ pairs.flatten ∧
      List.Forall₂ Point.DrawnBy chart.points pairs := by
  intro chart
  have rendered : (chart.render {} ⟨⟨2024, 5, 1⟩, 12, 0, 0, 0, none⟩).isOk = true := by
    decide +kernel
  have drawn : (chart.preview {}).map (fun preview => preview.image.isOk) = .ok true := by
    -- The styles are spelled out first, since the kernel is slow to read literals.
    unfold Chart.preview Layout.shapes Layout.frameShapes Layout.captionShapes
      Layout.dividerShapes Layout.axisShapes Layout.pointShapes Style.title Style.border
      Style.watermark Style.divider Style.lowLabel Style.highLabel Style.axisLabel Style.pointLabel
      Style.marker Style.textBase
    repeat rw [String.toList_append]
    repeat rw [String.toList_ofList]
    decide +kernel
  obtain ⟨text, written⟩ := Result.isOk_iff.1 rendered
  obtain ⟨preview, previewed, hasImage⟩ := Result.map_ok.1 drawn
  obtain ⟨image, imaged⟩ := Result.isOk_iff.1 hasImage
  obtain ⟨file, groups, reads, calls, each, points⟩ :=
    chart.preview_draws_document written previewed imaged
  obtain ⟨before, pairs, parts, -, paired⟩ := points _ rfl
  exact ⟨text, image, preview, file, groups, before, pairs, ⟨written, previewed, imaged⟩, reads,
    calls, each, parts, paired⟩

/-- The far corner of a border is not that of the box of its cell when the padding lies between two
floating point numbers. -/
theorem Chart.preview_rounds_border :
    let config : LayoutConfig := { canvasSize := .integer 2, padding := .integer (2 ^ 53 + 1) }
    let chart := Source.chart []
    ∃ text image preview file cell x y width height,
      chart.render config ⟨⟨2024, 5, 1⟩, 12, 0, 0, 0, none⟩ = .ok text ∧
        chart.preview config = .ok preview ∧ preview.image = .ok image ∧
        Reader.read? text = some file ∧ cell ∈ file.cells.filter Element.isShapeCell ∧
        cell.kind = .border ∧ cell.ReadsBox x y width height ∧
        ∀ span fill outline lineWidth,
          .rectangle span fill outline lineWidth ∈ preview.drawing.calls →
            ¬Same span.x1 (x + width) := by
  intro config chart
  have rendered : (chart.render config ⟨⟨2024, 5, 1⟩, 12, 0, 0, 0, none⟩).isOk = true := by
    decide +kernel
  have drawn : (chart.preview config).map (fun preview => preview.image.isOk &&
      preview.drawing.calls.all fun call => match call with
        | .rectangle span _ _ _ => !decide (Same span.x1 (Binary64.ofNat (2 ^ 53 + 1) + 2))
        | _ => true) = .ok true := by
    unfold Chart.preview Layout.shapes Layout.frameShapes Layout.captionShapes
      Layout.dividerShapes Layout.axisShapes Style.title Style.border Style.watermark Style.divider
      Style.lowLabel Style.highLabel Style.axisLabel Style.textBase
    repeat rw [String.toList_append]
    repeat rw [String.toList_ofList]
    decide +kernel
  have paddingDouble : config.padding.toDouble = .ok (Binary64.ofNat (2 ^ 53 + 1)) := by
    decide +kernel
  have canvasDouble : config.canvasSize.toDouble = .ok 2 := by decide +kernel
  obtain ⟨text, written⟩ := Result.isOk_iff.1 rendered
  obtain ⟨preview, previewed, facts⟩ := Result.map_ok.1 drawn
  obtain ⟨hasImage, others⟩ := Bool.and_eq_true_iff.1 facts
  obtain ⟨image, imaged⟩ := Result.isOk_iff.1 hasImage
  obtain ⟨shapes, stamp, placed, writable, -, rfl⟩ := Chart.render_ok written
  obtain ⟨-, frame, points, -, parts⟩ := Layout.shapes_ok placed
  obtain ⟨border, found, style, isVertex, left, top, wide⟩ : ∃ border, shapes[1]? = some border ∧
      border.style = Style.border ∧ border.kind = .vertex ∧ border.x = config.padding ∧
      border.y = config.padding ∧ border.width = config.canvasSize := by
    subst parts
    exact ⟨_, rfl, rfl, rfl, rfl, rfl, rfl⟩
  have isWritable := writable border (List.mem_of_getElem? found)
  obtain ⟨width, height, readX, readY, readWidth, readHeight, widthDouble, -, reads, xSame, -,
    widthSame, -⟩ := Shape.cell_readsBox isVertex isWritable 3 (left ▸ paddingDouble)
      (top ▸ paddingDouble)
  cases (wide ▸ widthDouble).symm.trans canvasDouble
  refine ⟨_, image, preview, _, _, readX, readY, readWidth, readHeight, written, previewed, imaged,
    Document.read_drawing stamp shapes, ?_, Shape.border_kind style isVertex 3, reads, ?_⟩
  · rw [Document.cells_frame, List.mem_filter]
    exact ⟨List.mem_of_getElem? (Shape.cells_at found), Shape.cell_isShapeCell _⟩
  · intro span fill outline lineWidth member same
    have differs := List.all_eq_true.1 others _ member
    have rounded := Binary64.same_trans _ _ _ same
      (Binary64.same_symm (Binary64.add_same xSame widthSame))
    exact of_decide_eq_false (Bool.not_eq_true' _ ▸ differs) rounded

end QuadrantChart
