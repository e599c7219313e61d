/-
This file proves which valid dimensions make documents without infinities.
-/

import QuadrantChart.Proofs.Diagram.Content
import QuadrantChart.Proofs.Layout.Drawable

namespace QuadrantChart

theorem Binary64.Same.isFinite {left right : Binary64} (same : Same left right) :
    left.isFinite = right.isFinite := by
  cases left <;> cases right <;> first | rfl | cases same

/-- A text that reads as a finite number. -/
def Text.ReadsFinite (text : Text) : Prop :=
  ∃ value, Numeral.read? text = some value ∧ value.isFinite = true

theorem Number.geometryText_finite {number : Number} (finite : number.isFinite = .ok true) :
    ∃ text, number.geometryText = .ok text ∧ text.ReadsFinite := by
  obtain ⟨value, converts, isFinite⟩ := isFinite_ok.1 finite
  obtain ⟨read, reads, same⟩ := value.read_writtenPlain
  exact ⟨_, number.geometryText_ok value converts, read, reads, same.isFinite.trans isFinite⟩

namespace Element

/-- The attributes that place an element. -/
def placeNames : List Text :=
  ["x", "y", "width", "height"].map String.toList

/-- An element that is placed by finite numbers only, as far as it is placed at all. -/
def PlacedFinitely (element : Element) : Prop :=
  ∀ name ∈ placeNames, ∀ text, element.attribute? name = some text → text.ReadsFinite

theorem PlacedFinitely.of_absent {element : Element}
    (absent : ∀ name ∈ placeNames, element.attribute? name = none) : element.PlacedFinitely := by
  intro name member text found
  rw [absent name member] at found
  cases found

end Element

namespace Geometry

open Element (PlacedFinitely)

theorem point_placed {point : Text × Text} (x : point.1.ReadsFinite) (y : point.2.ReadsFinite)
    (role : Text) : (pointElement role point).PlacedFinitely := by
  simp only [PlacedFinitely, Element.placeNames, List.map, List.forall_mem_cons]
  refine ⟨?_, ?_, ?_, ?_, by simp⟩
  · rintro _ ⟨⟩
    exact x
  · rintro _ ⟨⟩
    exact y
  · rintro _ ⟨⟩
  · rintro _ ⟨⟩

theorem box_placed {x y width height : Text} (xFinite : x.ReadsFinite) (yFinite : y.ReadsFinite)
    (widthFinite : width.ReadsFinite) (heightFinite : height.ReadsFinite) :
    ∀ element ∈ (box x y width height).elements.flatMap Element.tree, element.PlacedFinitely := by
  intro element member
  simp only [elements, List.flatMap_cons, List.flatMap_nil, Element.tree_plain, List.append_nil,
    List.mem_singleton] at member
  subst member
  simp only [PlacedFinitely, Element.placeNames, List.map, List.forall_mem_cons]
  refine ⟨?_, ?_, ?_, ?_, by simp⟩
  · rintro _ ⟨⟩
    exact xFinite
  · rintro _ ⟨⟩
    exact yFinite
  · rintro _ ⟨⟩
    exact widthFinite
  · rintro _ ⟨⟩
    exact heightFinite

theorem line_placed {source target : Text × Text} (sourceX : source.1.ReadsFinite)
    (sourceY : source.2.ReadsFinite) (targetX : target.1.ReadsFinite)
    (targetY : target.2.ReadsFinite) :
    ∀ element ∈ (line (some source) (some target)).elements.flatMap Element.tree,
      element.PlacedFinitely := by
  intro element member
  simp only [elements, Option.map_some, Option.toList_some, List.cons_append, List.nil_append,
    List.flatMap_cons, List.flatMap_nil, Element.tree_plain, List.append_nil, pointElement,
    List.mem_cons, List.not_mem_nil, or_false] at member
  rcases member with rfl | rfl | rfl
  · refine .of_absent ?_
    simp only [Element.placeNames, List.map, List.forall_mem_cons]
    exact ⟨rfl, rfl, rfl, rfl, by simp⟩
  · exact point_placed sourceX sourceY _
  · exact point_placed targetX targetY _

end Geometry

/-- The cell of a shape with finite numbers has no other numbers in it. -/
theorem Shape.cell_placed {shape : Shape} (finite : shape.IsFinite) (id : Nat) :
    ∀ element ∈ (shape.cell id).element.tree, element.PlacedFinitely := by
  simp only [IsFinite, List.forall_mem_cons] at finite
  obtain ⟨xFinite, yFinite, widthFinite, heightFinite, -⟩ := finite
  obtain ⟨x, xText, xReads⟩ := Number.geometryText_finite xFinite
  obtain ⟨y, yText, yReads⟩ := Number.geometryText_finite yFinite
  obtain ⟨width, widthText, widthReads⟩ := Number.geometryText_finite widthFinite
  obtain ⟨height, heightText, heightReads⟩ := Number.geometryText_finite heightFinite
  have head (isEdge : Bool) (text style : Text) (geometry : Geometry) :
      (Cell.element ⟨id, text, style, isEdge, geometry⟩).PlacedFinitely := by
    refine .of_absent ?_
    simp only [Element.placeNames, List.map, List.forall_mem_cons]
    cases isEdge <;> exact ⟨rfl, rfl, rfl, rfl, by simp⟩
  have tree (cell : Cell) : cell.element.tree =
      cell.element :: cell.geometry.elements.flatMap Element.tree := by
    rw [Cell.element, Element.tree_plain]
  rw [tree, List.forall_mem_cons]
  refine ⟨head _ _ _ _, ?_⟩
  simp only [cell, Geometry.ofShape]
  by_cases isEdge : shape.isEdge = true
  · have source : Geometry.pointText shape.x shape.y = .ok (x, y) := by
      rw [Geometry.pointText, xText, yText]
      rfl
    have target : Geometry.pointText shape.width shape.height = .ok (width, height) := by
      rw [Geometry.pointText, widthText, heightText]
      rfl
    simp only [if_pos isEdge, source, target]
    exact Geometry.line_placed xReads yReads widthReads heightReads
  · have box : Geometry.boxOf shape = .ok (.box x y width height) := by
      rw [Geometry.boxOf, xText, yText, widthText, heightText]
      rfl
    simp only [if_neg isEdge, box]
    exact Geometry.box_placed xReads yReads widthReads heightReads

theorem Shape.IsFinite.writable {shape : Shape} (finite : shape.IsFinite) : shape.Writable := by
  have converts {number : Number} (isFinite : number.isFinite = .ok true) :
      number.Convertible := by
    obtain ⟨value, converts, -⟩ := Number.isFinite_ok.1 isFinite
    exact ⟨value, converts⟩
  simp only [IsFinite, List.forall_mem_cons] at finite
  obtain ⟨x, y, width, height, -⟩ := finite
  exact ⟨converts x, converts y, converts width, converts height⟩

/-- Shapes with finite numbers make a file without other numbers. -/
theorem Document.frame_placed {shapes : List Shape} (finite : ∀ shape ∈ shapes, shape.IsFinite)
    (stamp : Text) :
    ∀ element ∈ (frame stamp (Shape.cells shapes)).tree, element.PlacedFinitely := by
  have plain {name : Text} {attributes : Attributes} {children : List Element}
      (absent : ∀ field ∈ Element.placeNames, attributes.lookup field = none) :
      (Element.plain name attributes children).PlacedFinitely := .of_absent absent
  have cells : ∀ element ∈ (Shape.cells shapes).flatMap Element.tree, element.PlacedFinitely := by
    rw [Shape.cells, List.flatMap_append, List.forall_mem_append]
    constructor
    · simp only [Cell.foundation, List.flatMap_cons, List.flatMap_nil, Element.tree_plain,
        List.append_nil, List.cons_append, List.nil_append, List.forall_mem_cons]
      exact ⟨plain (by decide), plain (by decide), by simp⟩
    · intro element member
      obtain ⟨cell, cellMember, inside⟩ := List.mem_flatMap.1 member
      obtain ⟨⟨shape, id⟩, numbered, rfl⟩ := List.mem_map.1 cellMember
      exact shape.cell_placed (finite shape (List.fst_mem_of_mem_zipIdx numbered)) id element inside
  have file : ∀ field ∈ Element.placeNames, (fileAttributes stamp).lookup field = none := by
    simp only [Element.placeNames, List.map, List.forall_mem_cons]
    exact ⟨rfl, rfl, rfl, rfl, by simp⟩
  simp only [frame, Element.tree_plain, List.flatMap_cons, List.flatMap_nil, List.append_nil,
    List.forall_mem_cons]
  exact ⟨plain file, plain (by decide), plain (by decide), plain (by decide), cells⟩

/-- A chart that is drawn has a document in which no other number places anything. -/
theorem LayoutConfig.Draws.document {config : LayoutConfig} {chart : Chart}
    (draws : config.Draws chart) {modified : Moment} {stamp : Text}
    (stamped : modified.stamp = .ok stamp) :
    ∃ text file, chart.render config modified = .ok text ∧ Reader.read? text = some file ∧
      ∀ element ∈ file.tree, element.PlacedFinitely := by
  obtain ⟨shapes, placed, finite⟩ := draws
  have writable : ∀ shape ∈ shapes, shape.Writable :=
    fun shape member => (finite shape member).writable
  refine ⟨_, _, ?_, Document.read_drawing stamp shapes, Document.frame_placed finite stamp⟩
  rw [Chart.render, placed]
  exact (serialize_drawing shapes modified writable).trans (by rw [stamped]; rfl)

namespace LayoutConfig

/-- Valid dimensions draw every chart exactly when they draw a point in the corner. Where the other
dimensions are slight, that is when the padding and the canvas size have a finite sum. The document
of a chart that is drawn has no infinities in it. -/
theorem drawable_documents {config : LayoutConfig} (valid : config.validate = .ok ()) :
    (config.IsDrawable ↔ config.Draws .corner) ∧
      (config.Moderate → config.Slight →
        (config.IsDrawable ↔ ∃ padding size, config.padding.toDouble = .ok padding ∧
          config.canvasSize.toDouble = .ok size ∧ (padding + size).isFinite = true)) ∧
      (config.IsDrawable → ∀ chart : Chart, (∀ point ∈ chart.points, point.InSquare) →
        ∀ modified stamp, modified.stamp = .ok stamp →
          ∃ text file, chart.render config modified = .ok text ∧ Reader.read? text = some file ∧
            ∀ element ∈ file.tree, element.PlacedFinitely) := by
  refine ⟨drawable_iff_corner, fun moderate slight => ?_, ?_⟩
  · obtain ⟨canvas⟩ := Layout.Canvas.of_valid valid
    rw [drawable_iff_canvas valid moderate slight canvas]
    constructor
    · intro finite
      exact ⟨_, _, canvas.paddingDouble, canvas.sizeDouble, finite⟩
    · rintro ⟨padding, size, paddingDouble, sizeDouble, finite⟩
      cases canvas.paddingDouble.symm.trans paddingDouble
      cases canvas.sizeDouble.symm.trans sizeDouble
      exact finite
  · intro drawable chart inSquare modified stamp stamped
    exact (drawable chart inSquare).document stamped

/-- The usual dimensions draw every chart. -/
theorem drawable_documents_usual :
    ({} : LayoutConfig).validate = .ok () ∧ ({} : LayoutConfig).IsDrawable := by
  have valid : ({} : LayoutConfig).validate = .ok () := by decide +kernel
  have moderate : ({} : LayoutConfig).Moderate :=
    moderate_of_within (Number.within_integer (by decide)) (Number.within_integer (by decide))
  have slight : ({} : LayoutConfig).Slight :=
    ⟨by decide +kernel, by decide +kernel, by decide +kernel, by decide +kernel,
      by decide +kernel, by decide +kernel, by decide +kernel⟩
  obtain ⟨-, drawable, -⟩ := drawable_documents valid
  exact ⟨valid, (drawable moderate slight).2
    ⟨.ofNat 100, .ofNat 600, by decide +kernel, by decide +kernel, by decide +kernel⟩⟩

/-- Valid dimensions whose sum overflows lay out even the empty chart with infinities. -/
theorem valid_not_drawable :
    let config : LayoutConfig :=
      { canvasSize := .double (.ofNat (10 ^ 308)), padding := .double (.ofNat (10 ^ 308)) }
    config.validate = .ok () ∧ ∃ shapes, Layout.shapes config {} = .ok shapes ∧
      ∃ shape ∈ shapes, shape.height = .double (.infinite false) := by
  intro config
  have found : (Layout.shapes config {}).map
      (fun shapes => shapes.any fun shape => shape.height = .double (.infinite false)) =
        .ok true := by
    decide +kernel
  obtain ⟨shapes, placed, some⟩ := Result.map_ok.1 found
  obtain ⟨shape, member, height⟩ := List.any_eq_true.1 some
  exact ⟨by decide +kernel, shapes, placed, shape, member, of_decide_eq_true height⟩

end LayoutConfig

end QuadrantChart
