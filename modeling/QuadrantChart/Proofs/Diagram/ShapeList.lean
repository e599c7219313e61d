/-
This file defines the cells of a list of shapes, and which of the shapes a document gets that is
extended by the list.
-/

import Mathlib.Algebra.Group.Int.Defs
import Mathlib.Data.List.Forall2
import QuadrantChart.Proofs.Diagram.Cell

namespace QuadrantChart

namespace Element

/-- The complete cells of shapes in their order, with consecutive ids. -/
def AllComplete (cells : List Element) (shapes : List Shape) (firstId : Nat) : Prop :=
  List.Forall₂ (fun cell (shape, id) => cell.Marks shape id ∧ cell.Places shape) cells
    (shapes.zipIdx firstId)

end Element

namespace Shape

/-- The cells of shapes in their order, with consecutive ids. -/
def cellsFrom (firstId : Nat) (shapes : List Shape) : List Element :=
  (shapes.zipIdx firstId).map fun (shape, id) => (shape.cell id).element

/-- The cells of a document to which the shapes have been added in their order. -/
def cells (shapes : List Shape) : List Element :=
  Cell.foundation ++ cellsFrom Cell.firstShapeId shapes

/-- The shapes up to the first one with a number that is too large, which is the last of them. -/
def upToFault : List Shape → List Shape
  | [] => []
  | shape :: shapes => shape :: if shape.Writable then upToFault shapes else []

/-- Shapes can all be written, or there is a first one that cannot. -/
theorem writable_or_first (shapes : List Shape) :
    (∀ shape ∈ shapes, shape.Writable) ∨
      ∃ earlier failing later, shapes = earlier ++ failing :: later ∧
        (∀ shape ∈ earlier, shape.Writable) ∧ ¬failing.Writable := by
  induction shapes with
  | nil => exact .inl fun shape member => by cases member
  | cons first others inductionHypothesis =>
    by_cases writable : first.Writable
    · rcases inductionHypothesis with all | ⟨earlier, failing, later, parts, each, tooLarge⟩
      · exact .inl (List.forall_mem_cons.2 ⟨writable, all⟩)
      · exact .inr ⟨first :: earlier, failing, later, congrArg (first :: ·) parts,
          List.forall_mem_cons.2 ⟨writable, each⟩, tooLarge⟩
    · exact .inr ⟨[], first, others, rfl, fun shape member => (by cases member), writable⟩

theorem upToFault_writable (shapes : List Shape) (writable : ∀ shape ∈ shapes, shape.Writable) :
    upToFault shapes = shapes := by
  induction shapes with
  | nil => rfl
  | cons first others inductionHypothesis =>
    obtain ⟨head, tail⟩ := List.forall_mem_cons.1 writable
    rw [upToFault, if_pos head, inductionHypothesis tail]

theorem upToFault_first (earlier later : List Shape) (failing : Shape)
    (writable : ∀ shape ∈ earlier, shape.Writable) (tooLarge : ¬failing.Writable) :
    upToFault (earlier ++ failing :: later) = earlier ++ [failing] := by
  induction earlier with
  | nil => rw [List.nil_append, upToFault, if_neg tooLarge, List.nil_append]
  | cons first others inductionHypothesis =>
    obtain ⟨head, tail⟩ := List.forall_mem_cons.1 writable
    rw [List.cons_append, upToFault, if_pos head, inductionHypothesis tail]
    rfl

theorem cells_append (shapes more : List Shape) :
    cells (shapes ++ more) =
      cells shapes ++ cellsFrom (Cell.firstShapeId + shapes.length) more := by
  simp [cells, cellsFrom, List.zipIdx_append]

theorem mem_cellsFrom {firstId : Nat} {shapes : List Shape} {cell : Element}
    (member : cell ∈ cellsFrom firstId shapes) :
    ∃ (id : Nat) (shape : Shape), cell = (shape.cell id).element := by
  obtain ⟨⟨shape, id⟩, -, made⟩ := List.mem_map.1 member
  exact ⟨id, shape, made.symm⟩

theorem cells_tidy (shapes : List Shape) : ∀ cell ∈ cells shapes, cell.Tidy := by
  intro cell member
  rcases List.mem_append.1 member with early | shown
  · have each : ∀ cell ∈ Cell.foundation, cell.Tidy := by
      have leaf (attributes : Attributes)
          (properFields : ∀ field ∈ attributes.map Prod.fst, Element.IsName field) :
          Element.Tidy (.plain "mxCell".toList attributes []) :=
        .of_names (by decide) properFields fun child none => by cases none
      refine List.forall_mem_cons.2 ⟨leaf _ ?_, List.forall_mem_singleton.2 (leaf _ ?_)⟩
      · simp only [List.map]
        decide
      · simp only [List.map]
        decide
    exact each cell early
  · obtain ⟨id, shape, rfl⟩ := mem_cellsFrom shown
    exact (shape.cell id).tidy

theorem cells_bare (shapes : List Shape) :
    (cells shapes).map Element.bare = cells shapes := by
  have shown : Element.bare ∘ (fun pair : Shape × Nat => (pair.1.cell pair.2).element) =
      fun pair => (pair.1.cell pair.2).element :=
    funext fun pair => (pair.1.cell pair.2).bare
  rw [cells, cellsFrom, List.map_append, List.map_map, shown]
  simp [Cell.foundation]

theorem cellsFrom_complete (firstId : Nat) (shapes : List Shape)
    (writable : ∀ shape ∈ shapes, shape.Writable) :
    Element.AllComplete (cellsFrom firstId shapes) shapes firstId := by
  rw [Element.AllComplete, cellsFrom, List.forall₂_map_left_iff, List.forall₂_same]
  rintro ⟨shape, id⟩ member
  rcases shape.cell_cases with ⟨-, -, places⟩ | ⟨tooLarge, -⟩
  · exact ⟨Cell.marks id shape, places id⟩
  · exact absurd (writable shape (List.fst_mem_of_mem_zipIdx member)) tooLarge

end Shape

end QuadrantChart
