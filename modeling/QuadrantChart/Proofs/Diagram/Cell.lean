/-
This file says which cell shows a shape, and proves that cells are made so. The cell of a shape with
a number that is too large for a geometry lacks a part of its geometry.
-/

import QuadrantChart.Proofs.Markup.Tree
import QuadrantChart.Proofs.Number.Geometry

namespace QuadrantChart

/-- The numbers of a shape that can be written in a geometry. -/
def Shape.Writable (shape : Shape) : Prop :=
  shape.x.Convertible ∧ shape.y.Convertible ∧ shape.width.Convertible ∧ shape.height.Convertible

instance (shape : Shape) : Decidable shape.Writable :=
  inferInstanceAs (Decidable (_ ∧ _))

namespace Element

def attribute? (element : Element) (name : Text) : Option Text :=
  element.attributes.lookup name

/-- An attribute that reads as a number. -/
def HasNumber (element : Element) (name : Text) (number : Number) : Prop :=
  ∃ text, element.attribute? name = some text ∧ text.Denotes number

/-- The cell of a shape, whatever its geometry is. -/
structure Marks (cell : Element) (shape : Shape) (id : Nat) : Prop where
  name : cell.name = "mxCell".toList
  attributes : cell.attributes =
    [("id".toList, Text.ofNat id), ("value".toList, shape.value), ("style".toList, shape.style),
      ("parent".toList, ['1']),
      if shape.kind.name = "edge".toList then ("edge".toList, ['1'])
      else ("vertex".toList, ['1'])]

/-- An end of a line. -/
structure IsEnd (point : Element) (role : Text) (x y : Number) : Prop where
  name : point.name = "mxPoint".toList
  role : point.attribute? "as".toList = some role
  x : point.HasNumber "x".toList x
  y : point.HasNumber "y".toList y

/-- The geometry of a line, from its source to its target. -/
def IsLine (geometry : Element) (shape : Shape) : Prop :=
  ∃ source target, geometry.children = [source, target] ∧
    source.IsEnd "sourcePoint".toList shape.x shape.y ∧
    target.IsEnd "targetPoint".toList shape.width shape.height

/-- The geometry of a box. -/
structure IsBox (geometry : Element) (shape : Shape) : Prop where
  x : geometry.HasNumber "x".toList shape.x
  y : geometry.HasNumber "y".toList shape.y
  width : geometry.HasNumber "width".toList shape.width
  height : geometry.HasNumber "height".toList shape.height
  childless : geometry.children = []

/-- A cell with the four numbers of a shape in its only child. -/
def Places (cell : Element) (shape : Shape) : Prop :=
  ∃ geometry, cell.children = [geometry] ∧ geometry.name = "mxGeometry".toList ∧
    geometry.attribute? "as".toList = some "geometry".toList ∧
    if shape.kind.name = "edge".toList then geometry.IsLine shape else geometry.IsBox shape

end Element

theorem Number.geometryText_cases (number : Number) :
    (∃ text, number.geometryText = .ok text ∧ text.Denotes number ∧ number.Convertible) ∨
      (number.geometryText = .error .integerTooLarge ∧ ¬number.Convertible) := by
  rcases number.convertible_or_tooLarge with ⟨nearest, converts⟩ | fails
  · exact .inl ⟨_, number.geometryText_ok nearest converts,
      number.geometryText_denotes nearest converts, nearest, converts⟩
  · refine .inr ⟨number.geometryText_error _ fails, ?_⟩
    rintro ⟨nearest, converts⟩
    rw [fails] at converts
    cases converts

theorem Shape.isEdge_iff (shape : Shape) :
    shape.isEdge = true ↔ shape.kind.name = "edge".toList := by
  obtain ⟨value, style, x, y, width, height, ⟨name⟩⟩ := shape
  simp [isEdge, ShapeKind.edge]

theorem Shape.not_isEdge {shape : Shape} (isVertex : shape.kind = .vertex) :
    ¬shape.isEdge = true := by
  rw [isEdge, isVertex]
  decide

/-- The proper names of attributes can be read off a list of attributes. -/
theorem Element.Tidy.of_names {name : Text} {attributes : Attributes} {children : List Element}
    (properName : IsName name) (properFields : ∀ field ∈ attributes.map Prod.fst, IsName field)
    (tidyChildren : ∀ child ∈ children, Tidy child) :
    Tidy (.plain name attributes children) :=
  .plain properName (fun _ member => properFields _ (List.mem_map_of_mem member)) tidyChildren

namespace Geometry

theorem point_tidy (role : Text) (point : Text × Text) : (pointElement role point).Tidy :=
  .of_names (by decide) (by simp only [List.map]; decide) (fun child member => by cases member)

theorem elements_tidy (geometry : Geometry) : ∀ element ∈ geometry.elements, element.Tidy := by
  cases geometry with
  | missing =>
    intro element member
    cases member
  | box x y width height =>
    intro element member
    rw [List.mem_singleton.1 member]
    exact .of_names (by decide) (by simp only [List.map]; decide) (fun child none => by cases none)
  | line source target =>
    intro element member
    rw [List.mem_singleton.1 member]
    refine .of_names (by decide) (by simp only [List.map]; decide) fun point pointMember => ?_
    rcases List.mem_append.1 pointMember with first | second
    · obtain ⟨coordinates, equal⟩ := Option.map_eq_some_iff.1 (Option.mem_toList.1 first)
      rw [← equal.2]
      exact point_tidy _ _
    · obtain ⟨coordinates, equal⟩ := Option.map_eq_some_iff.1 (Option.mem_toList.1 second)
      rw [← equal.2]
      exact point_tidy _ _

theorem elements_bare (geometry : Geometry) :
    geometry.elements.map Element.bare = geometry.elements := by
  have barePoint (role : Text) (point : Text × Text) :
      (pointElement role point).bare = pointElement role point := Element.bare_plain _ _ []
  cases geometry with
  | missing => rfl
  | box x y width height => simp [elements]
  | line source target =>
    cases source <;> cases target <;> simp [elements, barePoint]

end Geometry

namespace Cell

theorem tidy (cell : Cell) : cell.element.Tidy := by
  refine .of_names (by decide) ?_ cell.geometry.elements_tidy
  simp only [attributes, mark]
  cases cell.isEdge <;> simp only [List.map] <;> decide

theorem bare (cell : Cell) : cell.element.bare = cell.element := by
  rw [element, Element.bare_plain, Geometry.elements_bare]

end Cell

/-- The cell that a shape gets, as far as its numbers can be written. -/
def Shape.cell (id : Nat) (shape : Shape) : Cell :=
  { id, value := shape.value, style := shape.style, isEdge := shape.isEdge,
    geometry := (Geometry.ofShape shape).1 }

namespace Geometry

theorem pointElement_isEnd (role : Text) (x y : Number) (xText yText : Text)
    (xDenotes : xText.Denotes x) (yDenotes : yText.Denotes y) :
    (pointElement role (xText, yText)).IsEnd role x y where
  name := rfl
  role := rfl
  x := ⟨xText, rfl, xDenotes⟩
  y := ⟨yText, rfl, yDenotes⟩

/-- Two numbers become the coordinates of an end, unless one of them is too large. -/
theorem pointText_cases (x y : Number) :
    (∃ point, pointText x y = .ok point ∧ x.Convertible ∧ y.Convertible ∧
        ∀ role, (pointElement role point).IsEnd role x y) ∨
      (pointText x y = .error .integerTooLarge ∧ ¬(x.Convertible ∧ y.Convertible)) := by
  rcases x.geometryText_cases with ⟨xText, xWritten, xDenotes, xConverts⟩ | ⟨xFails, xTooLarge⟩
  · rcases y.geometryText_cases with ⟨yText, yWritten, yDenotes, yConverts⟩ | ⟨yFails, yTooLarge⟩
    · refine .inl ⟨(xText, yText), ?_, xConverts, yConverts, fun role => ?_⟩
      · rw [pointText, xWritten, yWritten]
        rfl
      · exact pointElement_isEnd role x y xText yText xDenotes yDenotes
    · refine .inr ⟨?_, fun both => yTooLarge both.2⟩
      rw [pointText, xWritten, yFails]
      rfl
  · refine .inr ⟨?_, fun both => xTooLarge both.1⟩
    rw [pointText, xFails]
    rfl

/-- Four numbers become a box, unless one of them is too large. -/
theorem boxOf_cases (shape : Shape) :
    (∃ x y width height, boxOf shape = .ok (.box x y width height) ∧ shape.Writable ∧
        x.Denotes shape.x ∧ y.Denotes shape.y ∧ width.Denotes shape.width ∧
        height.Denotes shape.height) ∨
      (boxOf shape = .error .integerTooLarge ∧ ¬shape.Writable) := by
  rcases shape.x.geometryText_cases with ⟨x, xWritten, xDenotes, xConverts⟩ | ⟨xFails, xTooLarge⟩
  case inr =>
    refine .inr ⟨?_, fun writable => xTooLarge writable.1⟩
    rw [boxOf, xFails]
    rfl
  rcases shape.y.geometryText_cases with ⟨y, yWritten, yDenotes, yConverts⟩ | ⟨yFails, yTooLarge⟩
  case inr =>
    refine .inr ⟨?_, fun writable => yTooLarge writable.2.1⟩
    rw [boxOf, xWritten, yFails]
    rfl
  rcases shape.width.geometryText_cases with
    ⟨width, widthWritten, widthDenotes, widthConverts⟩ | ⟨widthFails, widthTooLarge⟩
  case inr =>
    refine .inr ⟨?_, fun writable => widthTooLarge writable.2.2.1⟩
    rw [boxOf, xWritten, yWritten, widthFails]
    rfl
  rcases shape.height.geometryText_cases with
    ⟨height, heightWritten, heightDenotes, heightConverts⟩ | ⟨heightFails, heightTooLarge⟩
  case inr =>
    refine .inr ⟨?_, fun writable => heightTooLarge writable.2.2.2⟩
    rw [boxOf, xWritten, yWritten, widthWritten, heightFails]
    rfl
  refine .inl ⟨x, y, width, height, ?_, ⟨xConverts, yConverts, widthConverts, heightConverts⟩,
    xDenotes, yDenotes, widthDenotes, heightDenotes⟩
  rw [boxOf, xWritten, yWritten, widthWritten, heightWritten]
  rfl

end Geometry

theorem Cell.marks (id : Nat) (shape : Shape) : (shape.cell id).element.Marks shape id where
  name := rfl
  attributes := by
    have mark : Cell.mark shape.isEdge = if shape.kind.name = "edge".toList
        then ("edge".toList, ['1']) else ("vertex".toList, ['1']) :=
      if_congr shape.isEdge_iff rfl rfl
    have layer : Text.ofNat Cell.layerId = ['1'] := by
      rw [Text.ofNat]
      rfl
    rw [← mark, ← layer]
    rfl

/-- A shape with four numbers that can be written gets a complete cell, and any other shape a
fault. -/
theorem Shape.cell_cases (shape : Shape) :
    (shape.Writable ∧ (Geometry.ofShape shape).2 = none ∧
        ∀ id, (shape.cell id).element.Places shape) ∨
      (¬shape.Writable ∧ (Geometry.ofShape shape).2 = some .integerTooLarge) := by
  by_cases edge : shape.isEdge = true
  · have line := shape.isEdge_iff.1 edge
    rcases Geometry.pointText_cases shape.x shape.y with
      ⟨source, sourceWritten, xConverts, yConverts, sourceEnd⟩ | ⟨fails, tooLarge⟩
    case inr =>
      refine .inr ⟨fun writable => tooLarge ⟨writable.1, writable.2.1⟩, ?_⟩
      rw [Geometry.ofShape, if_pos edge, fails]
    rcases Geometry.pointText_cases shape.width shape.height with
      ⟨target, targetWritten, widthConverts, heightConverts, targetEnd⟩ | ⟨fails, tooLarge⟩
    case inr =>
      refine .inr ⟨fun writable => tooLarge ⟨writable.2.2.1, writable.2.2.2⟩, ?_⟩
      rw [Geometry.ofShape, if_pos edge, sourceWritten]
      simp only [fails]
    have complete : Geometry.ofShape shape = (.line (some source) (some target), none) := by
      rw [Geometry.ofShape, if_pos edge, sourceWritten]
      simp only [targetWritten]
    refine .inl ⟨⟨xConverts, yConverts, widthConverts, heightConverts⟩, by rw [complete],
      fun id => ?_⟩
    simp only [Element.Places, if_pos line, Shape.cell, complete]
    exact ⟨_, rfl, rfl, rfl, _, _, rfl, sourceEnd _, targetEnd _⟩
  · have box : ¬shape.kind.name = "edge".toList := fun name => edge (shape.isEdge_iff.2 name)
    rcases Geometry.boxOf_cases shape with
      ⟨x, y, width, height, written, writable, xDenotes, yDenotes, widthDenotes, heightDenotes⟩ |
      ⟨fails, tooLarge⟩
    case inr =>
      refine .inr ⟨tooLarge, ?_⟩
      rw [Geometry.ofShape, if_neg edge, fails]
    have complete : Geometry.ofShape shape = (.box x y width height, none) := by
      rw [Geometry.ofShape, if_neg edge, written]
    refine .inl ⟨writable, by rw [complete], fun id => ?_⟩
    simp only [Element.Places, if_neg box, Shape.cell, complete]
    exact ⟨_, rfl, rfl, rfl, ⟨x, rfl, xDenotes⟩, ⟨y, rfl, yDenotes⟩, ⟨width, rfl, widthDenotes⟩,
      ⟨height, rfl, heightDenotes⟩, rfl⟩

end QuadrantChart
