/-
This file proves which charts have a preview at a scale: their page, their lines and their letters
have to keep finite sizes.
-/

import QuadrantChart.Proofs.Preview.Drawing
import QuadrantChart.Proofs.Preview.Measured

namespace QuadrantChart

namespace Style

/-- The styles of texts with the sizes of their letters. -/
def fonts : List (Text × Binary64) :=
  [(title, 24), (watermark, 20), (axisLabel, 12), (lowLabel, 12), (highLabel, 12),
    (pointLabel, 11)]

theorem font_numbers : ∀ font ∈ fonts,
    (StyleTable.ofStyle font.1).number? "strokeWidth".toList 1 = some 1 ∧
      (StyleTable.ofStyle font.1).number? "fontSize".toList 12 = some font.2 := by
  unfold fonts title watermark lowLabel highLabel axisLabel pointLabel textBase
  repeat rw [String.toList_append]
  repeat rw [String.toList_ofList]
  decide +kernel

theorem border_number :
    (StyleTable.ofStyle border).number? "strokeWidth".toList 1 = some 1 := by
  unfold border
  repeat rw [String.toList_ofList]
  decide +kernel

theorem divider_number :
    (StyleTable.ofStyle divider).number? "strokeWidth".toList 1 = some 2 := by
  unfold divider
  repeat rw [String.toList_ofList]
  decide +kernel

theorem marker_number : ∀ color ∈ colors,
    (StyleTable.ofStyle (marker color)).number? "strokeWidth".toList 1 = some 1 := by
  unfold marker colors neutralColor
  repeat rw [String.toList_ofList]
  decide +kernel

end Style

/-- The texts around the points of a chart, with the sizes of their letters. -/
def Chart.frameLettering (chart : Chart) : List (Binary64 × Text) :=
  [(24, chart.title), (20, chart.captions.topLeft), (20, chart.captions.topRight),
    (20, chart.captions.bottomLeft), (20, chart.captions.bottomRight), (12, chart.xAxis.low),
    (12, chart.xAxis.high), (12, chart.yAxis.high), (12, chart.yAxis.low)]

/-- The texts of a chart with the sizes of their letters. -/
def Chart.lettering (chart : Chart) : List (Binary64 × Text) :=
  chart.frameLettering ++ chart.points.map fun point => (11, point.label)

/-- A text that can be written at a scale in letters of a size, unless it is empty. -/
def Text.Fits (size : Binary64) (text : Text) (scale : Number) : Prop :=
  text ≠ [] → (Number.double size).ScalesBy scale ∧ (Number.integer text.length).Convertible

instance (size : Binary64) (text : Text) (scale : Number) : Decidable (Text.Fits size text scale) :=
  inferInstanceAs (Decidable (_ → _))

namespace Shape

variable {shape : Shape} {scale : Number}

theorem measures_iff {style : StyleTable} {key : Text} {missing value : Binary64}
    (number : style.number? key missing = some value) :
    Preview.Measures style key missing scale ↔ (Number.double value).ScalesBy scale := by
  simp only [Preview.Measures, number, Option.some.injEq, exists_eq_left']

/-- A shape in the style of a text is measured with its line and its letters. -/
theorem text_isMeasured {size : Binary64} (font : (shape.style, size) ∈ Style.fonts)
    (isVertex : shape.kind = .vertex) :
    shape.IsMeasured scale ↔
      (Number.double 1).ScalesBy scale ∧ Text.Fits size shape.value scale := by
  obtain ⟨line, letters⟩ := Style.font_numbers _ font
  constructor
  · intro isMeasured
    refine ⟨(measures_iff line).1 isMeasured.line, fun nonempty => ?_⟩
    obtain ⟨measures, lengthFits⟩ := isMeasured.letters (not_isEdge isVertex) nonempty
    exact ⟨(measures_iff letters).1 measures, lengthFits⟩
  · rintro ⟨scales, fits⟩
    refine ⟨(measures_iff line).2 scales, fun _ nonempty => ?_⟩
    obtain ⟨letterScales, lengthFits⟩ := fits nonempty
    exact ⟨(measures_iff letters).2 letterScales, lengthFits⟩

/-- A shape without letters is measured with its line. -/
theorem blank_isMeasured (shape : Shape) {width : Binary64} (empty : shape.value = [])
    (line : (StyleTable.ofStyle shape.style).number? "strokeWidth".toList 1 = some width) :
    shape.IsMeasured scale ↔ (Number.double width).ScalesBy scale := by
  rw [← measures_iff line]
  exact ⟨IsMeasured.line, fun measures => ⟨measures, fun _ nonempty => absurd empty nonempty⟩⟩

end Shape

/-- A scale with a finite double is finite itself. -/
theorem Number.scales_one {scale : Binary64} (twice : (Number.double 2).ScalesBy (.double scale)) :
    (Number.double 1).ScalesBy (.double scale) := by
  rw [scalesBy_double] at twice ⊢
  obtain ⟨_, two, finite⟩ := twice
  cases two
  refine ⟨1, rfl, ?_⟩
  rw [Binary64.one_mul]
  obtain ⟨_, two⟩ := Binary64.two_finite
  rw [two] at finite
  cases scale with
  | finite negative units representable => rfl
  | nan => cases finite
  | infinite negative =>
    change (if _ then _ else _ : Binary64).isFinite = true at finite
    split_ifs at finite <;> cases finite

namespace Layout

variable {config : LayoutConfig} {chart : Chart} {scale : Binary64}

/-- A vertex in the style of a text is measured when its text fits. -/
theorem texts_measured (one : (Number.double 1).ScalesBy (.double scale)) :
    ∀ font ∈ Style.fonts, ∀ (value : Text) (x y width height : Number),
      (vertex value font.1 x y width height).IsMeasured (.double scale) ↔
        Text.Fits font.2 value (.double scale) := by
  intro font member value x y width height
  rw [Shape.text_isMeasured member rfl]
  exact and_iff_right one

/-- The shapes of the frame are measured when its texts fit. -/
theorem FramePlace.shapes_measured (place : FramePlace config) (chart : Chart)
    (twice : (Number.double 2).ScalesBy (.double scale)) :
    (∀ shape ∈ place.shapes chart, shape.IsMeasured (.double scale)) ↔
      ∀ font ∈ chart.frameLettering, Text.Fits font.1 font.2 (.double scale) := by
  have one := Number.scales_one twice
  have texts := texts_measured one
  simp only [Style.fonts, List.forall_mem_cons] at texts
  obtain ⟨title, caption, label, low, high, -⟩ := texts
  have border (x y width height : Number) :
      (vertex [] Style.border x y width height).IsMeasured (.double scale) :=
    (Shape.blank_isMeasured (vertex [] Style.border x y width height) rfl Style.border_number).2 one
  have divider (source target : Number × Number) :
      (edge Style.divider source target).IsMeasured (.double scale) :=
    (Shape.blank_isMeasured (edge Style.divider source target) rfl Style.divider_number).2 twice
  simp only [shapes, frameShapes, captionShapes, dividers, labels, Chart.frameLettering,
    List.cons_append, List.nil_append, List.forall_mem_cons, title, caption, low, high, label,
    border, divider, true_and, List.not_mem_nil, false_implies, implies_true]

/-- The shapes of the points are measured when their labels fit. -/
theorem points_measured {points : List Point} {shapes : List (List Shape)}
    (each : List.Forall₂ (fun point shapes => ∃ place : PointPlace config point,
      shapes = [place.marker, place.label]) points shapes)
    (one : (Number.double 1).ScalesBy (.double scale)) :
    (∀ shape ∈ shapes.flatten, shape.IsMeasured (.double scale)) ↔
      ∀ point ∈ points, Text.Fits 11 point.label (.double scale) := by
  induction each with
  | nil => simp
  | @cons point _ points _ first others inductionHypothesis =>
    obtain ⟨place, rfl⟩ := first
    have marker : place.marker.IsMeasured (.double scale) :=
      (Shape.blank_isMeasured place.marker rfl
        (Style.marker_number _ (Style.pointColor_mem _ _))).2 one
    have font : (place.label.style, (11 : Binary64)) ∈ Style.fonts := by
      simp [place.label_style, Style.fonts]
    have label : place.label.IsMeasured (.double scale) ↔
        Text.Fits 11 point.label (.double scale) :=
      (Shape.text_isMeasured font rfl).trans (and_iff_right one)
    simp only [List.flatten_cons, List.cons_append, List.nil_append, List.forall_mem_cons,
      marker, label, inductionHypothesis, true_and]

end Layout

/-- A chart whose lines and letters keep finite sizes at a scale. -/
structure Chart.Scales (chart : Chart) (scale : Number) : Prop where
  lines : (Number.double 2).ScalesBy scale
  letters : ∀ font ∈ chart.lettering, Text.Fits font.1 font.2 scale

instance (chart : Chart) (scale : Number) : Decidable (chart.Scales scale) :=
  decidable_of_iff
    ((Number.double 2).ScalesBy scale ∧ ∀ font ∈ chart.lettering, Text.Fits font.1 font.2 scale)
    ⟨fun ⟨lines, letters⟩ => ⟨lines, letters⟩, fun scales => ⟨scales.lines, scales.letters⟩⟩

namespace Layout

variable {config : LayoutConfig} {chart : Chart} {scale : Binary64} {shapes : List Shape}

/-- The shapes of a chart are measured when the chart can be scaled. -/
theorem shapes_measured (placed : Layout.shapes config chart = .ok shapes) :
    (∀ shape ∈ shapes, shape.IsMeasured (.double scale)) ↔ chart.Scales (.double scale) := by
  obtain ⟨-, frame, points, each, rfl⟩ := shapes_ok placed
  have letters : (∀ font ∈ chart.lettering, Text.Fits font.1 font.2 (.double scale)) ↔
      (∀ font ∈ chart.frameLettering, Text.Fits font.1 font.2 (.double scale)) ∧
        ∀ point ∈ chart.points, Text.Fits 11 point.label (.double scale) := by
    rw [Chart.lettering, List.forall_mem_append, List.forall_mem_map]
  rw [List.forall_mem_append]
  constructor
  · rintro ⟨frameMeasured, pointsMeasured⟩
    -- A divider, which every chart has, is measured with the widest line.
    let divider := edge Style.divider (frame.middle, config.padding) (frame.middle, frame.far)
    have isMeasured := frameMeasured divider (by
      simp [divider, FramePlace.shapes, FramePlace.dividers])
    have twice := (Shape.blank_isMeasured divider rfl Style.divider_number).1 isMeasured
    exact ⟨twice, letters.2 ⟨(frame.shapes_measured chart twice).1 frameMeasured,
      (points_measured each (Number.scales_one twice)).1 pointsMeasured⟩⟩
  · rintro ⟨twice, fits⟩
    obtain ⟨frameFits, pointsFit⟩ := letters.1 fits
    exact ⟨(frame.shapes_measured chart twice).2 frameFits,
      (points_measured each (Number.scales_one twice)).2 pointsFit⟩

end Layout

/-- The page of a layout has a finite side at a scale. -/
def LayoutConfig.HasPage (config : LayoutConfig) (scale : Number) : Prop :=
  ∃ total, config.totalSize = .ok total ∧ total.ScalesBy scale

instance (config : LayoutConfig) (scale : Number) : Decidable (config.HasPage scale) :=
  decidable_of_iff
    ((config.totalSize >>= fun total => total.mul scale >>= Number.isFinite) = .ok true) (by
      simp only [LayoutConfig.HasPage, Number.ScalesBy, Result.bind_ok])

/-- A chart that is drawn in finite sizes at a scale, on a page of a finite size. -/
structure Chart.IsSized (chart : Chart) (config : LayoutConfig) (scale : Number) : Prop where
  page : config.HasPage scale
  content : chart.Scales scale

instance (chart : Chart) (config : LayoutConfig) (scale : Number) :
    Decidable (chart.IsSized config scale) :=
  decidable_of_iff (config.HasPage scale ∧ chart.Scales scale)
    ⟨fun ⟨page, content⟩ => ⟨page, content⟩, fun sized => ⟨sized.page, sized.content⟩⟩

namespace Preview

variable {config : LayoutConfig} {scale : Binary64} {side : Int} {source : Text}

theorem pageSide_ok {scale : Number} (positive : scale.le 0 = false) :
    pageSide config scale = .ok side ↔
      ∃ total, config.totalSize = .ok total ∧ total.sizeAt scale = .ok side := by
  have measured : pageSide config scale =
      config.totalSize >>= fun total => total.sizeAt scale := by
    rw [pageSide, positive]
    rfl
  rw [measured, Result.bind_ok]

theorem pageSide_iff (positive : (Number.double scale).le 0 = false) :
    (∃ side, pageSide config (.double scale) = .ok side) ↔ config.HasPage (.double scale) := by
  simp only [pageSide_ok positive, LayoutConfig.HasPage, ← Number.sizeAt_iff]
  constructor
  · rintro ⟨side, total, summed, sized⟩
    exact ⟨total, summed, side, sized⟩
  · rintro ⟨total, summed, side, sized⟩
    exact ⟨side, total, summed, sized⟩

theorem pageSide_modest (positive : (Number.double scale).le 0 = false)
    (page : pageSide config (.double scale) = .ok side) : Number.IsModest side := by
  obtain ⟨total, -, sized⟩ := (pageSide_ok positive).1 page
  exact Number.sizeAt_modest sized

/-- The side of a page is short enough for the image file. -/
theorem image_made {preview : Preview} (modest : Number.IsModest preview.side)
    (drawn : preview.drawing.fault = none) : ∃ image, preview.image = .ok image := by
  have short : (Text.ofInt preview.side).length ≤ digitLimit :=
    Nat.le_trans modest.length (by decide)
  unfold image
  rw [drawn]
  exact ⟨_, if_pos short⟩

/-- In valid dimensions, a preview that does not draw dashes forever is made exactly when its chart
is drawn in finite sizes. -/
theorem ofSource_iff (moderate : config.Moderate) (valid : config.validate = .ok ())
    (positive : (Number.double scale).le 0 = false)
    (ends : (ofSource source config (.double scale) >>= image) ≠ .error .unending) :
    (∃ file, (ofSource source config (.double scale) >>= image) = .ok file) ↔
      (Source.chart source).IsSized config (.double scale) := by
  obtain ⟨shapes, placed, small⟩ := Layout.shapes_moderate moderate valid (Source.chart source)
  have needs := drawShapes_needs small (Number.toDouble_double scale) (Number.within_double _ scale)
  rw [Layout.shapes_measured placed] at needs
  constructor
  · rintro ⟨file, made⟩
    simp only [ofSource, ofShapes, placed, Result.bind_ok, Result.pure_ok] at made
    obtain ⟨_, ⟨_, ⟨⟩, side, page, rfl⟩, imaged⟩ := made
    have drawn := image_ok imaged
    exact ⟨(pageSide_iff positive).1 ⟨side, page⟩, needs.necessary (congrArg Drawing.fault drawn)⟩
  · rintro ⟨hasPage, scales⟩
    obtain ⟨side, page⟩ := (pageSide_iff positive).2 hasPage
    have drawing : ofSource source config (.double scale) =
        .ok ⟨side, drawShapes (.double scale) shapes⟩ := by
      simp only [ofSource, ofShapes, placed, page, bind, Except.bind, pure, Except.pure]
    rw [drawing] at ends ⊢
    rcases needs.sufficient scales with drawn | endless
    · exact image_made (pageSide_modest positive page) drawn
    · refine absurd ?_ ends
      change image _ = _
      unfold image
      rw [endless]

end Preview

end QuadrantChart
