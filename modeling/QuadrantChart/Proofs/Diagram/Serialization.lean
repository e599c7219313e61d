/-
This file proves that the text of a document reads back to a complete cell for each of its shapes,
whatever their texts are, and to nothing else.
-/

import QuadrantChart.Proofs.Diagram.Invariant
import QuadrantChart.Proofs.Markup.ReadWritten

namespace QuadrantChart

namespace Document

/-- The text of a document with a time stamp and with the cells of the shapes. -/
def drawing (stamp : Text) (shapes : List Shape) : Text :=
  (frame stamp (Shape.cells shapes)).indent.document

/-- The text of a document depends on its time stamp and its shapes only. -/
theorem Shows.write_text {document : Document} {stamp : Text} {shapes : List Shape}
    (shows : document.Shows stamp shapes) : document.write.2 = drawing stamp shapes := by
  rw [drawing, ← shows.bare, ← shows.rooted.indent_bare]
  rfl

theorem read_drawing (stamp : Text) (shapes : List Shape) :
    Reader.read? (drawing stamp shapes) = some (frame stamp (Shape.cells shapes)) := by
  have tidy := frame_tidy stamp _ (Shape.cells_tidy shapes)
  rw [drawing, Element.indent, Reader.read_document (tidy.indentFrom 0), Element.bare_indentFrom,
    frame_bare, Shape.cells_bare]

end Document

/-- What is written is one extension of a new document. -/
theorem serialize_created (shapes : List Shape) (modified : Moment) :
    serialize shapes modified =
      match Document.create modified with
      | .error fault => .error fault
      | .ok document => (document.extend shapes).2.map fun _ =>
          (document.extend shapes).1.write.2 := by
  unfold serialize
  cases Document.create modified with
  | error fault => rfl
  | ok document =>
    simp only [bind, Except.bind]
    rcases document.extend shapes with ⟨after, _ | _⟩ <;> rfl

/-- Shapes that can be written are written unless the moment has no time stamp. -/
theorem serialize_drawing (shapes : List Shape) (modified : Moment)
    (writable : ∀ shape ∈ shapes, shape.Writable) :
    serialize shapes modified = modified.stamp.map fun stamp => Document.drawing stamp shapes := by
  rw [serialize_created]
  rcases Document.create_cases modified with
    ⟨fault, stamped, fails⟩ | ⟨stamp, document, stamped, created, shows⟩
  · rw [stamped, fails]
    rfl
  · have extended := (shows.extend shapes).write_text
    rw [Shape.upToFault_writable shapes writable] at extended
    simp only [stamped, created, document.extend_answer shapes, if_pos writable, extended]
    rfl

/-- The text that shapes are written to reads as a document with the two cells of the layer and one
complete cell for each shape. -/
theorem serialize_reads (shapes : List Shape) (modified : Moment)
    (writable : ∀ shape ∈ shapes, shape.Writable) :
    match modified.stamp with
    | .error fault => serialize shapes modified = .error fault
    | .ok stamp => ∃ text file cells, serialize shapes modified = .ok text ∧
        Reader.read? text = some file ∧ file = Document.frame stamp file.cells ∧
        file.cells =
          .plain "mxCell".toList [("id".toList, "0".toList)] [] ::
            .plain "mxCell".toList [("id".toList, "1".toList), ("parent".toList, "0".toList)] [] ::
              cells ∧
        Element.AllComplete cells shapes 2 := by
  have written := serialize_drawing shapes modified writable
  cases stamped : modified.stamp with
  | error fault =>
    rw [stamped] at written
    exact written
  | ok stamp =>
    rw [stamped] at written
    have digits : Text.ofNat 0 = "0".toList ∧ Text.ofNat 1 = "1".toList := by decide +kernel
    refine ⟨_, _, Shape.cellsFrom 2 shapes, written, Document.read_drawing stamp shapes, ?_, ?_, ?_⟩
    · rw [Document.cells_frame]
    · rw [Document.cells_frame, ← digits.1, ← digits.2]
      rfl
    · exact Shape.cellsFrom_complete 2 shapes writable

/-- Texts that are markup themselves stay in the attributes of their cells. -/
theorem serialize_reads_markup :
    let shapes : List Shape :=
      [⟨"\"/></root><mxCell id=\"9\"/>\n&amp;\t%".toList, "a<b&gt;\r".toList, .integer 3,
        .double (1 / 10), .double .nan, .integer (2 ^ 60), .edge⟩]
    (∀ shape ∈ shapes, shape.Writable) ∧
      ∃ text file cells, serialize shapes ⟨⟨2024, 5, 1⟩, 12, 0, 0, 0, none⟩ = .ok text ∧
        Reader.read? text = some file ∧
        file.cells =
          .plain "mxCell".toList [("id".toList, "0".toList)] [] ::
            .plain "mxCell".toList [("id".toList, "1".toList), ("parent".toList, "0".toList)] [] ::
              cells ∧
        Element.AllComplete cells shapes 2 := by
  intro shapes
  have writable : ∀ shape ∈ shapes, shape.Writable := by decide +kernel
  refine ⟨writable, ?_⟩
  obtain ⟨text, file, cells, written, reads, -, complete⟩ :=
    serialize_reads shapes ⟨⟨2024, 5, 1⟩, 12, 0, 0, 0, none⟩ writable
  exact ⟨text, file, cells, written, reads, complete⟩

/-- An integer that lies between two floating point numbers reads as one of them. -/
theorem serialize_rounds_integer :
    let shape : Shape :=
      ⟨[], [], .integer (2 ^ 53 + 1), .integer 0, .integer 0, .integer 0, .vertex⟩
    ∃ text file geometry x read,
      serialize [shape] ⟨⟨2024, 5, 1⟩, 12, 0, 0, 0, none⟩ = .ok text ∧
        Reader.read? text = some file ∧ file.cells.flatMap Element.children = [geometry] ∧
        geometry.attribute? "x".toList = some x ∧ Numeral.read? x = some read ∧
        ¬Number.Same (.double read) shape.x := by
  intro shape
  have rounded : (shape.x.toDouble.map fun nearest => (Number.double nearest).le shape.x &&
      shape.x.le (.double nearest)) = .ok false := by decide +kernel
  have isNumber : shape.x.isNan = false := rfl
  have writable : ∀ other ∈ [shape], other.Writable := by decide +kernel
  have written := serialize_drawing [shape] ⟨⟨2024, 5, 1⟩, 12, 0, 0, 0, none⟩ writable
  rcases shape.cell_cases with ⟨-, -, places⟩ | ⟨tooLarge, -⟩
  case inr => exact absurd (writable shape List.mem_cons_self) tooLarge
  obtain ⟨geometry, only, -, -, box⟩ := places 2
  rw [if_neg (by decide)] at box
  obtain ⟨x, found, read, nearest, numeral, converted, same, -⟩ := box.x
  refine ⟨_, _, geometry, x, read, written, Document.read_drawing _ [shape], ?_, found, numeral,
    fun equal => ?_⟩
  · rw [Document.cells_frame, Shape.cells, List.flatMap_append]
    exact congrArg (· ++ []) only
  · have reverse := Number.same_symm _ _ ((Number.same_double read nearest).2 same)
    rw [converted] at rounded
    rcases Number.same_trans nearest read shape.x ((Number.same_double nearest read).1 reverse)
      equal with ⟨-, nan⟩ | ⟨below, above⟩
    · cases isNumber.symm.trans nan
    · simp [Except.map, below, above] at rounded

end QuadrantChart
