/-
This file says what the document of a chart holds: a cell for each of its texts, and an ellipse and
a label for each of its points.
-/

import QuadrantChart.Proofs.Diagram.Content
import QuadrantChart.Proofs.Layout.Dimensions
import QuadrantChart.Proofs.Source.WellFormed

namespace QuadrantChart

namespace Element

/-- A cell with a round marker of a colour in the square of a size at a corner. -/
structure IsMarker (cell : Element) (color : Text) (x y size : Binary64) : Prop where
  isEllipse : cell.isEllipse = true
  filled : ∃ style, cell.attribute? "style".toList = some style ∧
    (StyleTable.ofStyle style).color? "fillColor".toList = some color
  square : ∃ geometry, cell.children = [geometry] ∧ geometry.HasNumber "x".toList (.double x) ∧
    geometry.HasNumber "y".toList (.double y) ∧ geometry.HasNumber "width".toList (.double size) ∧
    geometry.HasNumber "height".toList (.double size)

/-- A cell with a text at a corner. -/
structure IsLabel (cell : Element) (label : Text) (x y : Binary64) : Prop where
  isText : ∃ style, cell.attribute? "style".toList = some style ∧
    Style.hasWord style "text".toList = true
  value : cell.attribute? "value".toList = some label
  corner : ∃ geometry, cell.children = [geometry] ∧ geometry.HasNumber "x".toList (.double x) ∧
    geometry.HasNumber "y".toList (.double y)

end Element

/-- What a file shows of a chart. The cells of the points stand behind those of the frame, and their
numbers come from the arithmetic of floating point numbers. -/
structure Chart.ShownIn (chart : Chart) (dimensions : Dimensions) (file : Element) : Prop where
  cells : file.cellsAnywhere = file.cells
  count : file.cells.length = 14 + 2 * chart.points.length
  ids : file.cells.map (Element.attribute? · "id".toList) =
    (List.range file.cells.length).map fun id => some (Text.ofNat id)
  values : ((file.cells.drop 2).take 12).map (Element.attribute? · "value".toList) =
    [chart.title, [], chart.captions.topLeft, chart.captions.topRight, chart.captions.bottomLeft,
      chart.captions.bottomRight, [], [], chart.xAxis.low, chart.xAxis.high, chart.yAxis.high,
      chart.yAxis.low].map some
  points : ∀ (index : Nat) (point : Point), chart.points[index]? = some point →
    ∃ across down marker label,
      Layout.toCanvas dimensions.config (.double point.x) (.double point.y) =
        .ok (.double across, .double down) ∧
      file.cells[14 + 2 * index]? = some marker ∧
      marker.IsMarker (Style.quadrantColor point.quadrant) (across - dimensions.markerSize / 2)
        (down - dimensions.markerSize / 2) dimensions.markerSize ∧
      file.cells[15 + 2 * index]? = some label ∧
      label.IsLabel point.label (across + dimensions.labelOffset) (down - dimensions.labelOffset)

theorem Shape.cell_style (shape : Shape) (id : Nat) :
    (shape.cell id).element.attribute? "style".toList = some shape.style :=
  rfl

theorem Shape.cell_isBox {shape : Shape} (isVertex : shape.kind = .vertex)
    (writable : shape.Writable) (id : Nat) :
    ∃ geometry, (shape.cell id).element.children = [geometry] ∧ geometry.IsBox shape := by
  have otherKind : ¬ShapeKind.vertex.name = "edge".toList := by decide
  rcases shape.cell_cases with ⟨-, -, places⟩ | ⟨tooLarge, -⟩
  · obtain ⟨geometry, only, -, -, box⟩ := places id
    rw [isVertex, if_neg otherKind] at box
    exact ⟨geometry, only, box⟩
  · exact absurd writable tooLarge

namespace Layout.PointPlace

variable {dimensions : Dimensions} {point : Point} (place : PointPlace dimensions.config point)

theorem marker_isMarker (inside : point.InSquare) (writable : place.marker.Writable)
    {x y : Binary64} (left : place.left = .double x) (top : place.top = .double y) (id : Nat) :
    (place.marker.cell id).element.IsMarker (Style.quadrantColor point.quadrant) x y
      dimensions.markerSize := by
  have items := Style.marker_items _ (Style.pointColor_mem (.double point.x) (.double point.y))
  obtain ⟨-, ellipse, -, -, fill, -⟩ := items
  obtain ⟨geometry, only, box⟩ := Shape.cell_isBox rfl writable id
  refine ⟨ellipse, ⟨_, Shape.cell_style _ id, ?_⟩, geometry, only, ?_, ?_, box.width, box.height⟩
  · rw [← inside.pointColor]
    exact fill
  · rw [← left]
    exact box.x
  · rw [← top]
    exact box.y

theorem label_isLabel (writable : place.label.Writable) {x y : Binary64}
    (left : place.labelLeft = .double x) (top : place.labelTop = .double y) (id : Nat) :
    (place.label.cell id).element.IsLabel point.label x y := by
  have isText : Style.hasWord place.label.style "text".toList = true := by
    rw [place.label_style]
    exact (Style.label_items _ (by simp)).1
  obtain ⟨geometry, only, box⟩ := Shape.cell_isBox rfl writable id
  refine ⟨⟨_, Shape.cell_style _ id, isText⟩, rfl, geometry, only, ?_, ?_⟩
  · rw [← left]
    exact box.x
  · rw [← top]
    exact box.y

end Layout.PointPlace

/-- The document of a chart shows the chart. -/
theorem Chart.drawing_shows {chart : Chart} {dimensions : Dimensions} {shapes : List Shape}
    (inSquare : ∀ point ∈ chart.points, point.InSquare)
    (placed : Layout.shapes dimensions.config chart = .ok shapes)
    (writable : ∀ shape ∈ shapes, shape.Writable) (stamp : Text) :
    chart.ShownIn dimensions (Document.frame stamp (Shape.cells shapes)) := by
  obtain ⟨-, frame, points, each, rfl⟩ := Layout.shapes_ok placed
  obtain ⟨count, positions⟩ := Layout.points_at each
  have twelve : (frame.shapes chart).length = 12 := rfl
  constructor
  · rw [Document.frame_cellsAnywhere, Document.cells_frame]
  · rw [Document.cells_frame, Shape.cells_length, List.length_append, count, twelve]
    omega
  · rw [Document.cells_frame]
    exact Shape.cells_ids _
  · rw [Document.cells_frame, List.map_take, List.map_drop]
    rw [Shape.cells_map _ _ (fun shape => some shape.value) fun id shape => rfl]
    rfl
  · intro index point found
    obtain ⟨place, marker, label⟩ := positions index point found
    obtain ⟨across, down, centre, left, top, labelLeft, labelTop⟩ :=
      dimensions.pointPlace_doubles place
    have shown (inner : Nat) (shape : Shape) (there : points.flatten[inner]? = some shape) :
        shape.Writable ∧ (Document.frame stamp (Shape.cells (frame.shapes chart ++
          points.flatten))).cells[14 + inner]? = some (shape.cell (14 + inner)).element := by
      have behind : (frame.shapes chart ++ points.flatten)[12 + inner]? = some shape := by
        rw [List.getElem?_append_right (by omega), twelve, Nat.add_sub_cancel_left, there]
      have cell := Shape.cells_at behind
      rw [← Nat.add_assoc] at cell
      rw [Document.cells_frame]
      exact ⟨writable shape (List.mem_of_getElem? behind), cell⟩
    have isInside := inSquare point (List.mem_of_getElem? found)
    obtain ⟨markerWritable, markerCell⟩ := shown _ _ marker
    obtain ⟨labelWritable, labelCell⟩ := shown _ _ label
    have next : 14 + (2 * index + 1) = 15 + 2 * index := by omega
    rw [next] at labelCell
    exact ⟨across, down, _, _, centre, markerCell,
      place.marker_isMarker isInside markerWritable left top _, labelCell,
      place.label_isLabel labelWritable labelLeft labelTop _⟩

/-- With valid dimensions and without large integers, a source is converted at every moment that has
a time stamp. -/
theorem Source.convert_stamped (source : Text) {config : LayoutConfig} (moderate : config.Moderate)
    (valid : config.validate = .ok ()) (modified : Moment) :
    ∃ shapes, convert source config modified =
      modified.stamp.map fun stamp => Document.drawing stamp shapes := by
  obtain ⟨shapes, placed, writable⟩ := Layout.shapes_placed moderate valid (chart source)
  rw [convert, Chart.render, placed]
  exact ⟨shapes, serialize_drawing shapes modified writable⟩

theorem Source.convert_made (source : Text) {config : LayoutConfig} (moderate : config.Moderate)
    (valid : config.validate = .ok ()) {modified : Moment} {stamp : Text}
    (stamped : modified.stamp = .ok stamp) : ∃ text, convert source config modified = .ok text := by
  obtain ⟨shapes, converted⟩ := convert_stamped source moderate valid modified
  exact ⟨_, converted.trans (by rw [stamped]; rfl)⟩

/-- With valid dimensions, every source is converted to a document that shows its chart. -/
theorem Source.convert_shows (source : Text) {dimensions : Dimensions}
    (valid : dimensions.config.validate = .ok ()) {modified : Moment} {stamp : Text}
    (stamped : modified.stamp = .ok stamp) :
    ∃ text file, convert source dimensions.config modified = .ok text ∧
      Reader.read? text = some file ∧ (chart source).ShownIn dimensions file := by
  obtain ⟨shapes, placed, writable⟩ :=
    Layout.shapes_placed dimensions.moderate valid (chart source)
  have inSquare : ∀ point ∈ (chart source).points, point.InSquare :=
    fun point member => ((chart_wellFormed source).points point member).inSquare
  refine ⟨_, _, ?_, Document.read_drawing stamp shapes,
    Chart.drawing_shows inSquare placed writable stamp⟩
  rw [convert, Chart.render, placed]
  exact (serialize_drawing shapes modified writable).trans (by rw [stamped]; rfl)

end QuadrantChart
