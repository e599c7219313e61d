/-
This file proves that each step of a run only appends cells, that the cells have consecutive ids,
and what a step leaves behind that meets a number that is too large.
-/

import Mathlib.Data.List.Nodup
import QuadrantChart.Proofs.Diagram.Invariant
import QuadrantChart.Proofs.Text.Digits

namespace QuadrantChart

namespace Element

/-- A cell of a shape has the mark of a vertex or of an edge. -/
def isShapeCell (cell : Element) : Bool :=
  cell.attribute? "vertex".toList = some ['1'] || cell.attribute? "edge".toList = some ['1']

end Element

namespace Shape

theorem cell_isShapeCell (cell : Cell) : cell.element.isShapeCell = true := by
  obtain ⟨id, value, style, isEdge, geometry⟩ := cell
  cases isEdge <;> rfl

theorem cellsFrom_length (firstId : Nat) (shapes : List Shape) :
    (cellsFrom firstId shapes).length = shapes.length := by
  rw [cellsFrom, List.length_map, List.length_zipIdx]

theorem cells_length (shapes : List Shape) :
    (cells shapes).length = 2 + shapes.length := by
  rw [cells, List.length_append, cellsFrom_length]
  rfl

theorem cellsFrom_ids (firstId : Nat) (shapes : List Shape) :
    (cellsFrom firstId shapes).map (Element.attribute? · "id".toList) =
      (List.range' firstId shapes.length).map fun id => some (Text.ofNat id) := by
  rw [← List.zipIdx_map_snd firstId shapes, List.map_map, cellsFrom, List.map_map]
  rfl

theorem cells_ids (shapes : List Shape) :
    (cells shapes).map (Element.attribute? · "id".toList) =
      (List.range (cells shapes).length).map fun id => some (Text.ofNat id) := by
  rw [cells_length, cells, List.map_append, cellsFrom_ids, List.range_eq_range',
    ← List.range'_append_1, List.map_append]
  rfl

theorem ids_distinct (count : Nat) :
    ((List.range count).map fun id => some (Text.ofNat id)).Nodup :=
  List.nodup_range.map fun _ _ equal => Text.ofNat_injective (Option.some.inj equal)

theorem cells_shapeCells (shapes : List Shape) :
    (cells shapes).filter Element.isShapeCell = cellsFrom 2 shapes := by
  have foundation : Cell.foundation.filter Element.isShapeCell = [] := rfl
  have shown : ∀ cell ∈ cellsFrom 2 shapes, cell.isShapeCell = true := by
    intro cell member
    obtain ⟨id, shape, rfl⟩ := mem_cellsFrom member
    exact cell_isShapeCell _
  rw [cells, List.filter_append, foundation, List.nil_append, Cell.firstShapeId,
    List.filter_eq_self.2 shown]

end Shape

namespace Document

/-- The ids of the cells are their places in the document, and each cell but the first has a parent
before it. -/
structure Numbered (document : Document) : Prop where
  names : ∀ cell ∈ document.cells, cell.name = "mxCell".toList
  ids : document.cells.map (Element.attribute? · "id".toList) =
    (List.range document.cells.length).map fun id => some (Text.ofNat id)
  distinct : (document.cells.map (Element.attribute? · "id".toList)).Nodup
  parents : ∀ place cell, document.cells[place + 1]? = some cell →
    ∃ earlier parent id, earlier ≤ place ∧ document.cells[earlier]? = some parent ∧
      cell.attribute? "parent".toList = some id ∧ parent.attribute? "id".toList = some id
  nextId : document.nextId = 2 + (document.cells.filter Element.isShapeCell).length

/-- What a step appends, which a fault tells from its answer. -/
inductive Step.Appends (step : Step) (firstId : Nat) (answer : Answer) (cells : List Element) :
    Prop where
  /-- Without a fault, all shapes of the step have complete cells. -/
  | complete (writable : ∀ shape ∈ step.shapes, shape.Writable)
      (answered : ∀ fault, answer ≠ .fault fault)
      (all : Element.AllComplete cells step.shapes firstId)
  /-- After a fault, the cell of the failing shape is the last one. -/
  | cutShort (earlier later : List Shape) (failing : Shape) (complete : List Element)
      (last : Element) (parts : step.shapes = earlier ++ failing :: later)
      (writable : ∀ shape ∈ earlier, shape.Writable) (tooLarge : ¬failing.Writable)
      (answered : answer = .fault .integerTooLarge) (appended : cells = complete ++ [last])
      (all : Element.AllComplete complete earlier firstId)
      (marks : last.Marks failing (firstId + earlier.length))

theorem Shows.numbered {document : Document} {stamp : Text} {shapes : List Shape}
    (shows : document.Shows stamp shapes) : document.Numbered where
  names := by
    intro cell member
    rw [shows.cells] at member
    rcases List.mem_append.1 member with early | shown
    · have each : ∀ cell ∈ Cell.foundation, cell.name = "mxCell".toList :=
        List.forall_mem_cons.2 ⟨rfl, List.forall_mem_singleton.2 rfl⟩
      exact each cell early
    · obtain ⟨id, shape, rfl⟩ := Shape.mem_cellsFrom shown
      rfl
  ids := by
    rw [shows.cells]
    exact Shape.cells_ids shapes
  distinct := by
    rw [shows.cells, Shape.cells_ids]
    exact Shape.ids_distinct _
  parents := by
    intro place cell found
    rw [shows.cells] at found ⊢
    -- Only the layer has the first cell as its parent.
    cases place with
    | zero =>
      cases found
      exact ⟨0, _, Text.ofNat 0, Nat.le_refl 0, rfl, rfl, rfl⟩
    | succ place =>
      obtain ⟨id, shape, rfl⟩ := Shape.mem_cellsFrom (List.mem_of_getElem? found)
      exact ⟨1, _, Text.ofNat 1, by omega, rfl, rfl, rfl⟩
  nextId := by
    rw [shows.nextId, shows.cells, Shape.cells_shapeCells, Shape.cellsFrom_length]
    rfl

namespace Shows

variable {document : Document} {stamp : Text} {shapes : List Shape}

/-- A step appends the cells of the shapes that it adds. -/
theorem perform_cells (shows : document.Shows stamp shapes) (step : Step) :
    (document.perform step).1.cells =
      document.cells ++ Shape.cellsFrom document.nextId step.added := by
  rw [(shows.perform step).cells, shows.cells, shows.nextId, Shape.cells_append]

theorem perform_nextId (shows : document.Shows stamp shapes) (step : Step) :
    (document.perform step).1.nextId =
      document.nextId + (Shape.cellsFrom document.nextId step.added).length := by
  rw [(shows.perform step).nextId, shows.nextId, Shape.cellsFrom_length, List.length_append,
    Nat.add_assoc]

end Shows

theorem perform_appends (document : Document) (step : Step) :
    step.Appends document.nextId (document.perform step).2
      (Shape.cellsFrom document.nextId step.added) := by
  rcases document.perform_fault step with ⟨writable, answered⟩ | ⟨notAll, answered⟩
  · refine .complete writable answered ?_
    rw [Step.added, Shape.upToFault_writable _ writable]
    exact Shape.cellsFrom_complete _ _ writable
  · rcases Shape.writable_or_first step.shapes with
      all | ⟨earlier, failing, later, parts, writable, tooLarge⟩
    · exact absurd all notAll
    · refine .cutShort earlier later failing (Shape.cellsFrom document.nextId earlier)
        (failing.cell (document.nextId + earlier.length)).element parts writable tooLarge answered
        ?_ (Shape.cellsFrom_complete _ _ writable) (Cell.marks _ _)
      rw [Step.added, parts, Shape.upToFault_first _ _ _ writable tooLarge]
      simp [Shape.cellsFrom, List.zipIdx_append]

/-- Over whole runs, faults included, the cells of a document have consecutive ids and parents
before them. Each step appends cells for its own shapes and changes none of the cells before, and
neither do all later steps together. -/
theorem run_appends_only (modified : Moment) (document : Document)
    (created : create modified = .ok document) (steps : List Step) :
    (document.run steps).1.Numbered ∧
    (∀ step, ∃ appended,
      ((document.run steps).1.perform step).1.cells = (document.run steps).1.cells ++ appended ∧
      ((document.run steps).1.perform step).1.nextId =
        (document.run steps).1.nextId + appended.length ∧
      step.Appends (document.run steps).1.nextId ((document.run steps).1.perform step).2
        appended) ∧
    ∀ later, (document.run steps).1.cells <+: (document.run (steps ++ later)).1.cells := by
  obtain ⟨stamp, -, shows⟩ := create_shows created
  have before := shows.run steps
  refine ⟨before.numbered, fun step => ?_, fun later => ?_⟩
  · exact ⟨_, before.perform_cells step, before.perform_nextId step, perform_appends _ step⟩
  · rw [before.cells, (shows.run (steps ++ later)).cells, List.flatMap_append,
      ← List.append_assoc, Shape.cells_append ([] ++ steps.flatMap Step.added)]
    exact List.prefix_append _ _

/-- A shape with a number that is too large is met in the first step, and then once more. -/
theorem run_appends_only_afterFault :
    let small : Shape := ⟨['s'], [], .integer 1, .integer 2, .integer 3, .integer 4, .edge⟩
    let large : Shape := ⟨['l'], [], .integer 1, .integer (10 ^ 400), .integer 3, .integer 4, .edge⟩
    ∃ document, create ⟨⟨2024, 5, 1⟩, 12, 0, 0, 0, none⟩ = .ok document ∧
      let before := (document.run [.extend [small, large, small], .write]).1
      before.Numbered ∧
        ∃ appended, (before.perform (.add large)).1.cells = before.cells ++ appended ∧
          (before.perform (.add large)).1.nextId = before.nextId + appended.length ∧
          (Step.add large).Appends before.nextId (before.perform (.add large)).2 appended := by
  intro small large
  have grows := run_appends_only ⟨⟨2024, 5, 1⟩, 12, 0, 0, 0, none⟩ _ rfl
    [.extend [small, large, small], .write]
  exact ⟨_, rfl, grows.1, grows.2.1 (.add large)⟩

end Document

end QuadrantChart
