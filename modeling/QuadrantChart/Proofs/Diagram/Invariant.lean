/-
This file defines when a document shows a list of shapes, and proves that each step of a run shows
the shapes of the step after the ones before.
-/

import QuadrantChart.Diagram.Document
import QuadrantChart.Proofs.Diagram.ShapeList
import QuadrantChart.Proofs.Markup.Indentation

namespace QuadrantChart

namespace Element

/-- The elements to which a path of names leads from an element. -/
def reached : (path : List Text) → Element → List Element
  | [], element => [element]
  | name :: path, element =>
    (element.children.filter fun child => child.name = name).flatMap (reached path)

/-- The elements under the root of a file. -/
def cells (file : Element) : List Element :=
  (file.reached ["diagram".toList, "mxGraphModel".toList, "root".toList]).flatMap children

end Element

namespace Document

/-- The shapes that a step is asked to add. -/
def Step.shapes : Step → List Shape
  | .add shape => [shape]
  | .extend shapes => shapes
  | .write => []

/-- The shapes that a step adds to a document. -/
def Step.added (step : Step) : List Shape :=
  Shape.upToFault step.shapes

theorem frame_bare (stamp : Text) (cells : List Element) :
    (frame stamp cells).bare = frame stamp (cells.map Element.bare) := by
  simp [frame]

theorem appendBelow_frame (stamp : Text) (cells : List Element) (cell : Element) :
    .appendBelow cell cellDepth (frame stamp cells) = frame stamp (cells ++ [cell]) :=
  rfl

theorem frame_tidy (stamp : Text) (cells : List Element) (tidy : ∀ cell ∈ cells, cell.Tidy) :
    (frame stamp cells).Tidy := by
  refine .of_names (by decide) (by simp only [fileAttributes, List.map]; decide) ?_
  refine List.forall_mem_singleton.2 (.of_names (by decide) (by decide) ?_)
  refine List.forall_mem_singleton.2 (.of_names (by decide) (by decide) ?_)
  exact List.forall_mem_singleton.2 (.of_names (by decide) (by decide) tidy)

theorem cells_frame (stamp : Text) (cells : List Element) : (frame stamp cells).cells = cells := by
  simp [frame, Element.cells, Element.reached, Element.plain, Element.children, Element.name]

/-- The cells of a document without the white space in them. -/
def cells (document : Document) : List Element :=
  document.file.bare.cells

/-- A document whose cells are the ones of a list of shapes, whatever indentation it has. -/
structure Shows (document : Document) (stamp : Text) (shapes : List Shape) : Prop where
  rooted : document.file.Rooted
  bare : document.file.bare = frame stamp (Shape.cells shapes)
  nextId : document.nextId = Cell.firstShapeId + shapes.length

/-- An addition appends a cell and takes an id, with a fault or without. -/
theorem add_eq (document : Document) (shape : Shape) :
    document.add shape =
      ({ file := .appendBelow (shape.cell document.nextId).element cellDepth document.file
         nextId := document.nextId + 1 },
        match (Geometry.ofShape shape).2 with
        | some fault => .error fault
        | none => .ok (shape.cell document.nextId)) := by
  unfold add Shape.cell
  rcases Geometry.ofShape shape with ⟨geometry, _ | fault⟩ <;> rfl

theorem add_writable (document : Document) (shape : Shape) (writable : shape.Writable) :
    (document.add shape).2 = .ok (shape.cell document.nextId) := by
  rcases shape.cell_cases with ⟨-, complete, -⟩ | ⟨tooLarge, -⟩
  · rw [add_eq, complete]
  · exact absurd writable tooLarge

theorem add_tooLarge (document : Document) (shape : Shape) (tooLarge : ¬shape.Writable) :
    (document.add shape).2 = .error .integerTooLarge := by
  rcases shape.cell_cases with ⟨writable, -⟩ | ⟨-, fault⟩
  · exact absurd writable tooLarge
  · rw [add_eq, fault]

/-- An extension goes on after a shape that can be written only. -/
theorem extend_cons (document : Document) (shape : Shape) (shapes : List Shape) :
    document.extend (shape :: shapes) =
      if shape.Writable then (document.add shape).1.extend shapes
      else ((document.add shape).1, .error .integerTooLarge) := by
  by_cases writable : shape.Writable
  · have added := document.add_writable shape writable
    rw [if_pos writable, extend]
    generalize document.add shape = result at added
    obtain ⟨after, answer⟩ := result
    cases added
    rfl
  · have fails := document.add_tooLarge shape writable
    rw [if_neg writable, extend]
    generalize document.add shape = result at fails
    obtain ⟨after, answer⟩ := result
    cases fails
    rfl

theorem extend_answer (document : Document) (shapes : List Shape) :
    (document.extend shapes).2 =
      if ∀ shape ∈ shapes, shape.Writable then .ok () else .error .integerTooLarge := by
  induction shapes generalizing document with
  | nil => rfl
  | cons first others inductionHypothesis =>
    rw [extend_cons]
    by_cases writable : first.Writable
    · rw [if_pos writable, inductionHypothesis]
      simp only [List.forall_mem_cons, writable, true_and]
    · have notAll : ¬∀ shape ∈ first :: others, shape.Writable :=
        fun all => writable (all first List.mem_cons_self)
      rw [if_neg writable, if_neg notAll]

/-- A step answers with a fault when it meets a number that is too large, and only then. -/
theorem perform_fault (document : Document) (step : Step) :
    ((∀ shape ∈ step.shapes, shape.Writable) ∧
        ∀ fault, (document.perform step).2 ≠ .fault fault) ∨
      ((¬∀ shape ∈ step.shapes, shape.Writable) ∧
        (document.perform step).2 = .fault .integerTooLarge) := by
  cases step with
  | add shape =>
    simp only [Step.shapes, List.forall_mem_singleton, perform]
    by_cases writable : shape.Writable
    · have answered := document.add_writable shape writable
      generalize document.add shape = result at answered
      obtain ⟨after, answer⟩ := result
      cases answered
      exact .inl ⟨writable, fun fault equal => by cases equal⟩
    · have answered := document.add_tooLarge shape writable
      generalize document.add shape = result at answered
      obtain ⟨after, answer⟩ := result
      cases answered
      exact .inr ⟨writable, rfl⟩
  | extend shapes =>
    have answered := document.extend_answer shapes
    simp only [Step.shapes, perform]
    generalize document.extend shapes = result at answered
    obtain ⟨after, answer⟩ := result
    by_cases writable : ∀ shape ∈ shapes, shape.Writable
    · rw [if_pos writable] at answered
      cases answered
      exact .inl ⟨writable, fun fault equal => by cases equal⟩
    · rw [if_neg writable] at answered
      cases answered
      exact .inr ⟨writable, rfl⟩
  | write =>
    exact .inl ⟨fun shape member => (by cases member), fun fault equal => by cases equal⟩

namespace Shows

variable {document : Document} {stamp : Text} {shapes : List Shape}

theorem add (shows : document.Shows stamp shapes) (shape : Shape) :
    (document.add shape).1.Shows stamp (shapes ++ [shape]) where
  rooted := by
    rw [add_eq]
    exact shows.rooted.appendBelow (shape.cell _).tidy cellDepth
  bare := by
    rw [add_eq, Element.bare_appendBelow, shows.bare, Cell.bare, appendBelow_frame,
      Shape.cells_append, shows.nextId]
    rfl
  nextId := by
    rw [add_eq, shows.nextId, List.length_append]
    rfl

theorem extend (shows : document.Shows stamp shapes) (more : List Shape) :
    (document.extend more).1.Shows stamp (shapes ++ Shape.upToFault more) := by
  induction more generalizing document shapes with
  | nil =>
    rw [Shape.upToFault, List.append_nil]
    exact shows
  | cons shape more inductionHypothesis =>
    rw [extend_cons, Shape.upToFault]
    by_cases writable : shape.Writable
    · rw [if_pos writable, if_pos writable, List.append_cons]
      exact inductionHypothesis (shows.add shape)
    · rw [if_neg writable, if_neg writable]
      exact shows.add shape

theorem write (shows : document.Shows stamp shapes) : document.write.1.Shows stamp shapes where
  rooted := shows.rooted.indent
  bare := (Element.bare_indentFrom 0 document.file).trans shows.bare
  nextId := shows.nextId

theorem perform (shows : document.Shows stamp shapes) (step : Step) :
    (document.perform step).1.Shows stamp (shapes ++ step.added) := by
  cases step with
  | add shape =>
    have added := shows.add shape
    have alone : (Step.add shape).added = [shape] := by
      simp [Step.added, Step.shapes, Shape.upToFault]
    rw [alone, Document.perform]
    generalize document.add shape = result at added
    obtain ⟨after, _ | cell⟩ := result <;> exact added
  | extend more =>
    have extended := shows.extend more
    rw [Document.perform]
    generalize document.extend more = result at extended
    obtain ⟨after, _ | _⟩ := result <;> exact extended
  | write =>
    have nothing : Step.write.added = [] := rfl
    rw [nothing, List.append_nil]
    exact shows.write

/-- After a run, a document shows the shapes of all steps. -/
theorem run (shows : document.Shows stamp shapes) (steps : List Step) :
    (document.run steps).1.Shows stamp (shapes ++ steps.flatMap Step.added) := by
  induction steps generalizing document shapes with
  | nil =>
    rw [List.flatMap_nil, List.append_nil]
    exact shows
  | cons step steps inductionHypothesis =>
    rw [List.flatMap_cons, ← List.append_assoc]
    exact inductionHypothesis (shows.perform step)

theorem cells (shows : document.Shows stamp shapes) : document.cells = Shape.cells shapes := by
  rw [Document.cells, shows.bare, cells_frame]

end Shows

/-- A document is created without shapes whenever its moment has a time stamp. -/
theorem create_cases (modified : Moment) :
    (∃ fault, modified.stamp = .error fault ∧ create modified = .error fault) ∨
      ∃ stamp document, modified.stamp = .ok stamp ∧ create modified = .ok document ∧
        document.Shows stamp [] := by
  unfold create
  cases modified.stamp with
  | error fault => exact .inl ⟨fault, rfl, rfl⟩
  | ok stamp =>
    refine .inr ⟨stamp, _, rfl, rfl, ⟨?_, rfl⟩, ?_, rfl⟩
    · exact frame_tidy stamp _ (Shape.cells_tidy [])
    · exact (frame_bare stamp _).trans (congrArg (frame stamp) (Shape.cells_bare []))

theorem create_shows {modified : Moment} {document : Document}
    (created : create modified = .ok document) :
    ∃ stamp, modified.stamp = .ok stamp ∧ document.Shows stamp [] := by
  rcases create_cases modified with ⟨fault, -, fails⟩ | ⟨stamp, other, stamped, succeeds, shows⟩
  · cases created.symm.trans fails
  · cases created.symm.trans succeeds
    exact ⟨stamp, stamped, shows⟩

end Document

end QuadrantChart
