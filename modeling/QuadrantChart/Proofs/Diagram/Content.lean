/-
This file finds the cell of each shape in the document that the shapes are written to, and counts
the cells that show ellipses.
-/

import QuadrantChart.Proofs.Diagram.Growth
import QuadrantChart.Proofs.Diagram.Serialization
import QuadrantChart.Proofs.Layout.Style
import QuadrantChart.Proofs.Result

namespace QuadrantChart

namespace Element

mutual

/-- An element and the elements in it, in the order of their first tags. -/
def tree : Element → List Element
  | .mk name attributes children text tail =>
    .mk name attributes children text tail :: forest children

def forest : List Element → List Element
  | [] => []
  | element :: elements => tree element ++ forest elements

end

theorem forest_eq (elements : List Element) : forest elements = elements.flatMap tree := by
  induction elements with
  | nil => rfl
  | cons element elements inductionHypothesis =>
    rw [forest, inductionHypothesis, List.flatMap_cons]

@[simp]
theorem tree_plain (name : Text) (attributes : Attributes) (children : List Element) :
    (plain name attributes children).tree =
      plain name attributes children :: children.flatMap tree := by
  rw [plain, tree, forest_eq]

@[simp]
theorem name_plain (name : Text) (attributes : Attributes) (children : List Element) :
    (plain name attributes children).name = name :=
  rfl

/-- The cells of a file, wherever they are in it. -/
def cellsAnywhere (file : Element) : List Element :=
  file.tree.filter fun element => element.name = "mxCell".toList

/-- Whether a cell shows an ellipse. -/
def isEllipse (cell : Element) : Bool :=
  (cell.attribute? "style".toList).any (Style.hasWord · "ellipse".toList)

end Element

/-- A geometry has no cells in it. -/
theorem Geometry.elements_cellless (geometry : Geometry) :
    ∀ element ∈ geometry.elements.flatMap Element.tree, element.name ≠ "mxCell".toList := by
  cases geometry with
  | missing => simp [elements]
  | box x y width height => simp [elements]
  | line source target => cases source <;> cases target <;> simp [elements, pointElement]

theorem Cell.element_cellsAnywhere (cell : Cell) : cell.element.cellsAnywhere = [cell.element] := by
  have others : (cell.geometry.elements.flatMap Element.tree).filter
      (fun element => element.name = "mxCell".toList) = [] := by
    rw [List.filter_eq_nil_iff]
    intro element member
    rw [decide_eq_true_eq]
    exact cell.geometry.elements_cellless element member
  rw [Element.cellsAnywhere, element, Element.tree_plain, List.filter_cons_of_pos (by rfl), others]

/-- The cells of a document are those in its root. -/
theorem Document.frame_cellsAnywhere (stamp : Text) (shapes : List Shape) :
    (frame stamp (Shape.cells shapes)).cellsAnywhere = Shape.cells shapes := by
  have alone : ∀ cell ∈ Shape.cells shapes, cell.cellsAnywhere = [cell] := by
    intro cell member
    rcases List.mem_append.1 member with early | shown
    · simp only [Cell.foundation, List.mem_cons, List.not_mem_nil, or_false] at early
      rcases early with rfl | rfl <;> simp [Element.cellsAnywhere]
    · obtain ⟨id, shape, rfl⟩ := Shape.mem_cellsFrom shown
      exact Cell.element_cellsAnywhere _
  calc (frame stamp (Shape.cells shapes)).cellsAnywhere
      = (Shape.cells shapes).flatMap fun cell =>
          cell.tree.filter fun element => element.name = "mxCell".toList := by
        simp [frame, Element.cellsAnywhere, List.filter_flatMap]
    _ = (Shape.cells shapes).flatMap fun cell => [cell] := List.flatMap_congr alone
    _ = Shape.cells shapes := List.flatMap_singleton' _

/-- The cell of a shape stands behind the two cells of the layer. -/
theorem Shape.cells_at {shapes : List Shape} {index : Nat} {shape : Shape}
    (found : shapes[index]? = some shape) :
    (cells shapes)[2 + index]? = some (shape.cell (2 + index)).element := by
  rw [cells, List.getElem?_append_right (by simp [Cell.foundation])]
  simp [Cell.foundation, cellsFrom, Cell.firstShapeId, List.getElem?_zipIdx, found]

/-- What the cells show of their shapes comes in the order of the shapes. -/
theorem Shape.cells_map {Kind : Type} (shapes : List Shape) (ofCell : Element → Kind)
    (ofShape : Shape → Kind)
    (agree : ∀ (id : Nat) (shape : Shape), ofCell (shape.cell id).element = ofShape shape) :
    (cells shapes).map ofCell = Cell.foundation.map ofCell ++ shapes.map ofShape := by
  have shown : ofCell ∘ (fun pair : Shape × Nat => (pair.1.cell pair.2).element) =
      ofShape ∘ Prod.fst :=
    funext fun pair => agree pair.2 pair.1
  rw [cells, List.map_append, cellsFrom, List.map_map, shown, ← List.map_map, List.zipIdx_map_fst]

/-- A document shows as many ellipses as there are shapes with the style of one. -/
theorem Shape.cells_ellipses (shapes : List Shape) :
    (cells shapes).countP Element.isEllipse =
      shapes.countP fun shape => Style.hasWord shape.style "ellipse".toList := by
  have counted {Kind : Type} (holds : Kind → Bool) (list : List Kind) :
      list.countP holds = (list.map holds).count true := by
    simp [List.count, List.countP_map, Function.comp_def]
  have each := cells_map shapes Element.isEllipse
    (fun shape => Style.hasWord shape.style "ellipse".toList) fun id shape => rfl
  have none : Cell.foundation.map Element.isEllipse = [false, false] := by decide
  rw [counted, counted, each, none]
  simp

/-- Shapes that have been written have numbers that can be. -/
theorem serialize_ok {shapes : List Shape} {modified : Moment} {text : Text}
    (written : serialize shapes modified = .ok text) :
    (∀ shape ∈ shapes, shape.Writable) ∧
      ∃ stamp, modified.stamp = .ok stamp ∧ text = Document.drawing stamp shapes := by
  by_cases writable : ∀ shape ∈ shapes, shape.Writable
  · rw [serialize_drawing shapes modified writable] at written
    obtain ⟨stamp, stamped, equal⟩ := Result.map_ok.1 written
    exact ⟨writable, stamp, stamped, equal.symm⟩
  · rw [serialize_created] at written
    cases created : Document.create modified with
    | error fault => simp [created] at written
    | ok document =>
      simp [created, document.extend_answer, writable, Except.map] at written

theorem Chart.render_ok {chart : Chart} {config : LayoutConfig} {modified : Moment} {text : Text}
    (rendered : chart.render config modified = .ok text) :
    ∃ shapes stamp, Layout.shapes config chart = .ok shapes ∧ (∀ shape ∈ shapes, shape.Writable) ∧
      modified.stamp = .ok stamp ∧ text = Document.drawing stamp shapes := by
  obtain ⟨shapes, placed, written⟩ := Result.bind_ok.1 rendered
  obtain ⟨writable, stamp, stamped, equal⟩ := serialize_ok written
  exact ⟨shapes, stamp, placed, writable, stamped, equal⟩

end QuadrantChart
