/-
This file proves that the document of a chart is well formed exactly when the texts of the chart
have no characters that documents may not contain, since writing keeps every character.
-/

import QuadrantChart.Proofs.Diagram.Content
import QuadrantChart.Proofs.Layout.Shapes
import QuadrantChart.Proofs.Markup.Legal
import QuadrantChart.Proofs.Source.WellFormed

namespace QuadrantChart

open Markup

theorem Number.geometryText_legal {number : Number} {text : Text}
    (written : number.geometryText = .ok text) : IsLegalText text := by
  have each : ∀ char ∈ Numeral.alphabet, isLegal char = true := List.all_eq_true.1 (by decide)
  obtain ⟨nearest, -, plain⟩ := Result.bind_ok.1 written
  cases plain
  exact fun char member => each char (nearest.writtenPlain_plain char member)

theorem Text.ofNat_legal (value : Nat) : IsLegalText (Text.ofNat value) :=
  fun char member => digit_legal char (Text.ofNat_isDigit value char member)

/-- A time stamp consists of digits and of marks between them. -/
theorem Moment.stamp_legal {moment : Moment} {stamp : Text} (stamped : moment.stamp = .ok stamp) :
    IsLegalText stamp := by
  have digits (width value : Nat) : IsLegalText (Text.padded width value) :=
    fun char member => digit_legal char (Text.padded_isDigit width value char member)
  obtain ⟨universal, -, text⟩ := Result.bind_ok.1 stamped
  cases text
  simp +decide [Moment.text, digits, Text.ofNat_legal]

namespace Geometry

/-- The texts of a geometry, each of which shows a number. -/
def texts : Geometry → List Text
  | .missing => []
  | .box x y width height => [x, y, width, height]
  | .line source target => (source.toList ++ target.toList).flatMap fun point => [point.1, point.2]

theorem pointText_legal {x y : Number} {point : Text × Text} (written : pointText x y = .ok point) :
    IsLegalText point.1 ∧ IsLegalText point.2 := by
  simp only [pointText, Result.bind_ok, Result.pure_ok] at written
  obtain ⟨xText, xWritten, yText, yWritten, rfl⟩ := written
  exact ⟨Number.geometryText_legal xWritten, Number.geometryText_legal yWritten⟩

theorem boxOf_legal {shape : Shape} {geometry : Geometry} (written : boxOf shape = .ok geometry) :
    ∀ text ∈ geometry.texts, IsLegalText text := by
  simp only [boxOf, Result.bind_ok, Result.pure_ok] at written
  obtain ⟨x, xWritten, y, yWritten, width, widthWritten, height, heightWritten, rfl⟩ := written
  simp [texts, Number.geometryText_legal xWritten, Number.geometryText_legal yWritten,
    Number.geometryText_legal widthWritten, Number.geometryText_legal heightWritten]

/-- Whatever part of a geometry can be written has legal texts. -/
theorem ofShape_legal (shape : Shape) : ∀ text ∈ (ofShape shape).1.texts, IsLegalText text := by
  rw [ofShape]
  by_cases isEdge : shape.isEdge = true
  · rw [if_pos isEdge]
    cases sourceWritten : pointText shape.x shape.y with
    | error fault => simp [texts]
    | ok source =>
      have sourceLegal := pointText_legal sourceWritten
      cases targetWritten : pointText shape.width shape.height with
      | error fault => simp [texts, sourceLegal]
      | ok target => simp [texts, sourceLegal, pointText_legal targetWritten]
  · rw [if_neg isEdge]
    cases written : boxOf shape with
    | error fault => simp [texts]
    | ok geometry => exact boxOf_legal written

theorem pointElement_legal {role : Text} (known : IsLegalText role) {point : Text × Text}
    (legal : IsLegalText point.1 ∧ IsLegalText point.2) : (pointElement role point).Legal := by
  refine .plain (by decide) (by simp only [List.map]; decide) ?_ fun child none => by cases none
  simp [known, legal]

theorem elements_legal {geometry : Geometry} (legal : ∀ text ∈ geometry.texts, IsLegalText text) :
    ∀ element ∈ geometry.elements, element.Legal := by
  cases geometry with
  | missing =>
    intro element member
    cases member
  | box x y width height =>
    refine List.forall_mem_singleton.2 (.plain (by decide) (by simp only [List.map]; decide) ?_
      fun child none => by cases none)
    simp only [texts, List.map, List.forall_mem_cons] at legal ⊢
    exact ⟨legal.1, legal.2.1, legal.2.2.1, legal.2.2.2.1, by decide, by simp⟩
  | line source target =>
    refine List.forall_mem_singleton.2 (.plain (by decide) (by simp only [List.map]; decide) ?_ ?_)
    · simp only [List.map]
      decide
    · have shown {role : Text} (known : IsLegalText role) (point : Option (Text × Text))
          (each : ∀ ends ∈ point, IsLegalText ends.1 ∧ IsLegalText ends.2) :
          ∀ element ∈ (point.map (pointElement role)).toList, element.Legal := by
        cases point with
        | none => simp
        | some ends =>
          exact List.forall_mem_singleton.2 (pointElement_legal known (each ends rfl))
      have both : ∀ ends ∈ source.toList ++ target.toList,
          IsLegalText ends.1 ∧ IsLegalText ends.2 := fun ends member =>
        ⟨legal _ (List.mem_flatMap.2 ⟨ends, member, by simp⟩),
          legal _ (List.mem_flatMap.2 ⟨ends, member, by simp⟩)⟩
      refine List.forall_mem_append.2 ⟨shown (by decide) source ?_, shown (by decide) target ?_⟩
      · exact fun ends member => both ends (List.mem_append_left _ (Option.mem_toList.2 member))
      · exact fun ends member => both ends (List.mem_append_right _ (Option.mem_toList.2 member))

end Geometry

theorem Shape.cell_legal {shape : Shape} (value : IsLegalText shape.value)
    (style : IsLegalText shape.style) (id : Nat) : (shape.cell id).element.Legal := by
  have mark : IsLegalText (Cell.mark (shape.cell id).isEdge).2 := by
    cases (shape.cell id).isEdge <;> decide
  refine .plain (by decide) ?_ ?_ (Geometry.elements_legal (Geometry.ofShape_legal shape))
  · simp only [Cell.attributes, Cell.mark]
    cases (shape.cell id).isEdge <;> simp only [List.map] <;> decide
  · simp only [Cell.attributes, List.map, List.forall_mem_cons]
    exact ⟨Text.ofNat_legal _, value, style, Text.ofNat_legal _, mark, by simp⟩

theorem Document.frame_legal {stamp : Text} (legal : IsLegalText stamp) {cells : List Element}
    (each : ∀ cell ∈ cells, cell.Legal) : (frame stamp cells).Legal := by
  refine .plain (by decide) (by simp only [fileAttributes, List.map]; decide) ?_ ?_
  · simp only [fileAttributes, List.map, List.forall_mem_cons]
    exact ⟨by decide, legal, by decide, by decide, by simp⟩
  refine List.forall_mem_singleton.2 (.plain (by decide) (by decide) (by decide) ?_)
  refine List.forall_mem_singleton.2 (.plain (by decide) (by decide) (by decide) ?_)
  exact List.forall_mem_singleton.2 (.plain (by decide) (by decide) (by decide) each)

namespace Element

/-- The values of all attributes in a tree. -/
def values (element : Element) : List Text :=
  element.tree.flatMap fun inner => inner.attributes.map Prod.snd

theorem values_mk (name : Text) (attributes : Attributes) (children : List Element)
    (text tail : Text) : (mk name attributes children text tail).values =
      attributes.map Prod.snd ++ children.flatMap values := by
  rw [values, tree, forest_eq, List.flatMap_cons, List.flatMap_assoc]
  rfl

theorem values_bare (element : Element) : element.bare.values = element.values := by
  induction element with
  | mk name attributes children text tail inductionHypothesis =>
    rw [bare_mk, plain, values_mk, values_mk, List.flatMap_map,
      List.flatMap_congr inductionHypothesis]

/-- Indentation keeps the values of attributes. -/
theorem values_indent (element : Element) : element.indent.values = element.values := by
  rw [← values_bare, indent, bare_indentFrom, values_bare]

theorem writtenAll_eq (elements : List Element) :
    writtenAll elements = elements.flatMap written := by
  induction elements with
  | nil => rfl
  | cons element elements inductionHypothesis =>
    rw [writtenAll, inductionHypothesis, List.flatMap_cons]

/-- The values in a tree are written in it, each with its references. -/
theorem escape_subset_written (element : Element) :
    ∀ value ∈ element.values, escape value ⊆ element.written := by
  induction element with
  | mk name attributes children text tail inductionHypothesis =>
    intro value member char inside
    rw [values_mk] at member
    rcases List.mem_append.1 member with own | inner
    · obtain ⟨field, among, rfl⟩ := List.mem_map.1 own
      have inField : char ∈ attributeText field := by
        simp [attributeText, inside]
      have inHead : char ∈ head name attributes :=
        List.mem_append_right _ (List.mem_flatMap.2 ⟨field, among, inField⟩)
      simp [written, inHead]
    · obtain ⟨child, among, below⟩ := List.mem_flatMap.1 inner
      have inChild : char ∈ child.written := inductionHypothesis child among value below inside
      have inAll : char ∈ writtenAll children := by
        rw [writtenAll_eq]
        exact List.mem_flatMap.2 ⟨child, among, inChild⟩
      have nonempty : children.isEmpty = false := by
        cases children with
        | nil => cases among
        | cons first others => rfl
      simp [written, nonempty, inAll]

/-- Only legal characters are written as references. -/
theorem escape_legal {value : Text} (legal : IsLegalText (escape value)) : IsLegalText value := by
  intro char member
  have inside : ∀ other ∈ escapeChar char, isLegal other = true := fun other written =>
    legal other (List.mem_flatMap.2 ⟨char, member, written⟩)
  unfold escapeChar at inside
  split at inside
  case h_8 => exact inside char (List.mem_singleton_self char)
  all_goals decide

/-- The values in a document that is well formed are legal. -/
theorem values_legal {element : Element} (legal : IsDocument element.indent.document) :
    ∀ value ∈ element.values, IsLegalText value := by
  intro value member
  rw [← values_indent] at member
  apply escape_legal
  intro char inside
  apply legal.legal
  exact List.mem_append_left _
    (List.mem_append_right _ (escape_subset_written _ value member inside))

end Element

namespace Style

-- The literals are spelled out first, since the kernel is slow to read their characters.

theorem label_legal : ∀ style ∈ labels, IsLegalText style := by
  unfold labels title watermark lowLabel highLabel axisLabel pointLabel textBase
  repeat rw [String.toList_append]
  repeat rw [String.toList_ofList]
  decide

theorem border_legal : IsLegalText border := by
  unfold border
  repeat rw [String.toList_ofList]
  decide

theorem divider_legal : IsLegalText divider := by
  unfold divider
  repeat rw [String.toList_ofList]
  decide

theorem marker_legal (x y : Number) : IsLegalText (marker (pointColor x y)) := by
  have each : ∀ color ∈ colors, IsLegalText (marker color) := by
    unfold marker colors neutralColor
    repeat rw [String.toList_ofList]
    decide
  exact each _ (pointColor_mem x y)

end Style

namespace Layout

variable {config : LayoutConfig} {chart : Chart} {result : List Shape}

/-- The shapes of a chart have the texts of the chart, and otherwise the empty text. -/
theorem shapes_values (placed : shapes config chart = .ok result) :
    result.map Shape.value ⊆ [] :: chart.texts ∧ chart.texts ⊆ result.map Shape.value := by
  obtain ⟨-, frame, points, each, rfl⟩ := shapes_ok placed
  have listed : (frame.shapes chart ++ points.flatten).map Shape.value =
      [chart.title, [], chart.captions.topLeft, chart.captions.topRight,
        chart.captions.bottomLeft, chart.captions.bottomRight, [], [], chart.xAxis.low,
        chart.xAxis.high, chart.yAxis.high, chart.yAxis.low] ++
        chart.points.flatMap fun point => [[], point.label] := by
    rw [List.map_append, points_values each]
    rfl
  rw [listed]
  constructor
  · intro text member
    simp only [List.mem_append, List.mem_flatMap, List.mem_cons, List.not_mem_nil, or_false,
      Chart.texts, List.mem_map] at member ⊢
    grind
  · intro text member
    simp only [List.mem_append, List.mem_flatMap, List.mem_cons, List.not_mem_nil, or_false,
      Chart.texts, List.mem_map] at member ⊢
    grind

theorem shapes_style_legal (placed : shapes config chart = .ok result) :
    ∀ shape ∈ result, IsLegalText shape.style := by
  obtain ⟨-, frame, points, each, rfl⟩ := shapes_ok placed
  refine List.forall_mem_append.2 ⟨fun shape member => ?_, ?_⟩
  · rcases frame.shapes_style chart shape member with label | border | divider
    · exact Style.label_legal _ label
    · rw [border]
      exact Style.border_legal
    · rw [divider]
      exact Style.divider_legal
  · clear placed
    generalize chart.points = all at each
    induction each with
    | nil => simp
    | cons first others inductionHypothesis =>
      obtain ⟨place, rfl⟩ := first
      rw [List.flatten_cons]
      refine List.forall_mem_append.2 ⟨?_, inductionHypothesis⟩
      have label := Style.label_legal Style.pointLabel (by simp)
      rw [← place.label_style] at label
      simp only [List.forall_mem_cons]
      exact ⟨Style.marker_legal _ _, label, by simp⟩

end Layout

namespace Chart

variable {chart : Chart} {config : LayoutConfig} {modified : Moment} {text : Text}

theorem render_isDocument (rendered : chart.render config modified = .ok text)
    (legal : ∀ part ∈ chart.texts, IsLegalText part) : IsDocument text := by
  obtain ⟨shapes, stamp, placed, -, stamped, rfl⟩ := render_ok rendered
  have styles := Layout.shapes_style_legal placed
  have values : ∀ shape ∈ shapes, IsLegalText shape.value := by
    intro shape member
    rcases List.mem_cons.1 ((Layout.shapes_values placed).1 (List.mem_map_of_mem member)) with
      empty | among
    · rw [empty]
      exact isLegalText_nil
    · exact legal _ among
  have cells : ∀ cell ∈ Shape.cells shapes, cell.Legal := by
    refine List.forall_mem_append.2 ⟨?_, fun cell shown => ?_⟩
    · have leaf : ∀ child ∈ ([] : List Element), child.Legal := fun child none => by cases none
      have number := Text.ofNat_legal
      exact List.forall_mem_cons.2 ⟨.plain (by decide) (by decide) (by simp [number]) leaf,
        List.forall_mem_singleton.2 (.plain (by decide) (by decide) (by simp [number]) leaf)⟩
    · obtain ⟨⟨shape, id⟩, listed, rfl⟩ := List.mem_map.1 shown
      have member := List.fst_mem_of_mem_zipIdx listed
      exact Shape.cell_legal (values shape member) (styles shape member) id
  exact ((Document.frame_legal (Moment.stamp_legal stamped) cells).indentFrom 0).document

theorem render_texts_legal (rendered : chart.render config modified = .ok text)
    (wellFormed : IsDocument text) : ∀ part ∈ chart.texts, IsLegalText part := by
  obtain ⟨shapes, stamp, placed, -, -, rfl⟩ := render_ok rendered
  intro part member
  obtain ⟨shape, among, rfl⟩ := List.mem_map.1 ((Layout.shapes_values placed).2 member)
  obtain ⟨index, found⟩ := List.mem_iff_getElem?.1 among
  have shown : (shape.cell (2 + index)).element ∈
      (Document.frame stamp (Shape.cells shapes)).tree := by
    have cell := List.mem_of_getElem? (Shape.cells_at found)
    rw [← Document.frame_cellsAnywhere stamp] at cell
    exact (List.mem_filter.1 cell).1
  apply Element.values_legal wellFormed
  exact List.mem_flatMap.2 ⟨_, shown, .tail _ (.head _)⟩

end Chart

namespace Source

/-- The texts of a chart are legal when its source is. -/
theorem chart_texts_legal {source : Text} (legal : IsLegalText source) :
    ∀ part ∈ (chart source).texts, IsLegalText part := by
  apply Chart.foldl_texts IsLegalText
  · decide
  · intro directive member text among
    obtain ⟨line, listed, -, told⟩ := directive_said member
    obtain ⟨part, within, rfl⟩ := said_texts told text among
    obtain ⟨raw, rawLine, rfl⟩ := List.mem_map.1 listed
    intro char inside
    have inRaw : char ∈ raw := Text.mem_of_mem_trim (within.subset (Text.mem_of_mem_trim inside))
    exact legal char ((Text.splitOn_part '\n' source raw rawLine).2 inRaw)

/-- A document is well formed exactly when the texts of its chart have legal characters only. -/
theorem convert_isDocument_iff {source : Text} {config : LayoutConfig} {modified : Moment}
    {text : Text} (converted : convert source config modified = .ok text) :
    (IsDocument text ↔ ∀ part ∈ (chart source).texts, IsLegalText part) ∧
      (IsLegalText source → IsDocument text) :=
  ⟨⟨Chart.render_texts_legal converted, Chart.render_isDocument converted⟩,
    fun legal => Chart.render_isDocument converted (chart_texts_legal legal)⟩

/-- The characters of markup can stand in a title. -/
theorem convert_isDocument_ampersand :
    IsLegalText "title A & B\nC: [0, 1]".toList ∧
      ∃ text, convert "title A & B\nC: [0, 1]".toList {} ⟨⟨2024, 5, 1⟩, 12, 0, 0, 0, none⟩ =
        .ok text ∧ IsDocument text := by
  have legal : IsLegalText "title A & B\nC: [0, 1]".toList := by decide
  obtain ⟨text, converted⟩ := Result.isOk_iff.1 (by decide +kernel :
    (convert "title A & B\nC: [0, 1]".toList {} ⟨⟨2024, 5, 1⟩, 12, 0, 0, 0, none⟩).isOk = true)
  exact ⟨legal, text, converted, (convert_isDocument_iff converted).2 legal⟩

/-- A control character in a title spoils the document. -/
theorem convert_keeps_controlCharacter :
    ∃ text, convert "title a\x01b".toList {} ⟨⟨2024, 5, 1⟩, 12, 0, 0, 0, none⟩ = .ok text ∧
      ¬IsDocument text := by
  obtain ⟨text, converted⟩ := Result.isOk_iff.1 (by decide +kernel :
    (convert "title a\x01b".toList {} ⟨⟨2024, 5, 1⟩, 12, 0, 0, 0, none⟩).isOk = true)
  have illegal : ¬∀ part ∈ (chart "title a\x01b".toList).texts, IsLegalText part := by
    decide +kernel
  exact ⟨text, converted, fun wellFormed =>
    illegal (Chart.render_texts_legal converted wellFormed)⟩

end Source

end QuadrantChart
