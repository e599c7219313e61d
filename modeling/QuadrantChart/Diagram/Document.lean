/-
This file builds diagram documents of one page by adding shapes.
-/

import QuadrantChart.Calendar.Moment
import QuadrantChart.Diagram.Cell
import QuadrantChart.Layout.Basic
import QuadrantChart.Source.Basic

namespace QuadrantChart

/-- A document is the tree of its file, and the id of its next cell. -/
structure Document where
  file : Element
  nextId : Nat := Cell.firstShapeId

namespace Document

def modelAttributes : Attributes :=
  [("dx", "1000"), ("dy", "1000"), ("grid", "1"), ("gridSize", "10"), ("guides", "1"),
    ("tooltips", "1"), ("connect", "1"), ("arrows", "1"), ("fold", "1"), ("page", "1"),
    ("pageScale", "1"), ("pageWidth", "827"), ("pageHeight", "1169"), ("math", "0"),
    ("shadow", "0")].map fun (name, value) => (name.toList, value.toList)

def fileAttributes (modified : Text) : Attributes :=
  [("host".toList, "Electron".toList), ("modified".toList, modified),
    ("agent".toList, "MermaidCLI".toList), ("type".toList, "device".toList)]

/-- The file with the given time stamp around the given cells. -/
def frame (modified : Text) (cells : List Element) : Element :=
  let root := .plain "root".toList [] cells
  let model := .plain "mxGraphModel".toList modelAttributes [root]
  let diagram := .plain "diagram".toList [("id".toList, "mermaid-diagram".toList)] [model]
  .plain "mxfile".toList (fileAttributes modified) [diagram]

/-- The steps from the file down to the element that holds the cells. -/
def cellDepth : Nat := 3

/-- A document without shapes that was last changed at a moment. -/
def create (modified : Moment) : Except Fault Document := do
  return { file := frame (← modified.stamp) Cell.foundation }

/-- Adds the cell of a shape, also when its geometry cannot be completed. -/
def add (document : Document) (shape : Shape) : Document × Except Fault Cell :=
  let (geometry, fault) := Geometry.ofShape shape
  let cell : Cell :=
    { id := document.nextId, value := shape.value, style := shape.style, isEdge := shape.isEdge
      geometry }
  let document : Document :=
    { file := .appendBelow cell.element cellDepth document.file, nextId := document.nextId + 1 }
  match fault with
  | some fault => (document, .error fault)
  | none => (document, .ok cell)

/-- Adds shapes up to the first one whose geometry cannot be completed. -/
def extend (document : Document) : List Shape → Document × Except Fault Unit
  | [] => (document, .ok ())
  | shape :: shapes =>
    match document.add shape with
    | (document, .ok _) => document.extend shapes
    | (document, .error fault) => (document, .error fault)

/-- Indents the file for good, and writes it. -/
def write (document : Document) : Document × Text :=
  let document := { document with file := document.file.indent }
  (document, document.file.document)

/-- What can be asked of a document. -/
inductive Step where
  | add (shape : Shape)
  | extend (shapes : List Shape)
  | write

inductive Answer where
  | cell (cell : Cell)
  | nextId (id : Nat)
  | text (text : Text)
  | fault (fault : Fault)

/-- The document after a step, and what the step answers. -/
def perform (document : Document) : Step → Document × Answer
  | .add shape => match document.add shape with
    | (document, .ok cell) => (document, .cell cell)
    | (document, .error fault) => (document, .fault fault)
  | .extend shapes => match document.extend shapes with
    | (document, .ok _) => (document, .nextId document.nextId)
    | (document, .error fault) => (document, .fault fault)
  | .write =>
    let (document, text) := document.write
    (document, .text text)

/-- The document after all steps, and their answers in order. -/
def run (document : Document) : List Step → Document × List Answer
  | [] => (document, [])
  | step :: steps =>
    let (document, answer) := document.perform step
    let (document, answers) := document.run steps
    (document, answer :: answers)

end Document

/-- The text of the document that holds the given shapes. -/
def serialize (shapes : List Shape) (modified : Moment) : Except Fault Text := do
  let (document, result) := (← Document.create modified).extend shapes
  result
  return document.write.2

/-- The text of the document of a chart. -/
def Chart.render (chart : Chart) (config : LayoutConfig) (modified : Moment) :
    Except Fault Text := do
  serialize (← Layout.shapes config chart) modified

/-- The text of the document of the chart that a source describes. -/
def Source.convert (source : Text) (config : LayoutConfig) (modified : Moment) :
    Except Fault Text :=
  (Source.chart source).render config modified

end QuadrantChart
