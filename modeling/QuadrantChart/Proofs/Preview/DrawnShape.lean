/-
This file proves that each shape of a layout is drawn as its cell shows it.
-/

import QuadrantChart.Proofs.Diagram.ChartContent
import QuadrantChart.Proofs.Layout.Extent
import QuadrantChart.Proofs.Layout.Role
import QuadrantChart.Proofs.Preview.DrawnCell
import QuadrantChart.Proofs.Preview.Drawing

namespace QuadrantChart

open Binary64 (Same)

namespace Shape

variable {shape : Shape}

theorem cell_edge (shape : Shape) (id : Nat) :
    (shape.cell id).element.attribute? "edge".toList =
      if shape.isEdge = true then some ['1'] else none := by
  change List.lookup "edge".toList [("id".toList, _), ("value".toList, _), ("style".toList, _),
    ("parent".toList, _), Cell.mark shape.isEdge] = _
  cases shape.isEdge <;> rfl

theorem cell_kind (shape : Shape) (id : Nat) :
    (shape.cell id).element.kind =
      if Style.hasWord shape.style "text".toList = true then .text
      else if shape.isEdge = true then .divider
      else if Style.hasWord shape.style "ellipse".toList = true then .marker
      else .border := by
  have marked : (shape.cell id).element.attribute? "edge".toList = some ['1'] ↔
      shape.isEdge = true := by
    rw [shape.cell_edge]
    cases shape.isEdge <;> decide
  unfold Element.kind Element.isEllipse
  rw [shape.cell_style, Option.any_some, Option.any_some]
  simp only [marked]

theorem text_kind (isLabel : shape.style ∈ Style.labels) (id : Nat) :
    (shape.cell id).element.kind = .text := by
  rw [shape.cell_kind, if_pos (Style.label_items _ isLabel).1]

/-- Only a shape with the word for ellipses has a marker as its cell. -/
theorem kind_ne_marker (round : Style.hasWord shape.style "ellipse".toList = false) (id : Nat) :
    (shape.cell id).element.kind ≠ .marker := by
  rw [shape.cell_kind, round, if_neg Bool.false_ne_true]
  split
  · exact CellKind.noConfusion
  · split <;> exact CellKind.noConfusion

/-- The box of a cell has the numbers of its shape, each rounded once. -/
theorem cell_readsBox (isVertex : shape.kind = .vertex) (writable : shape.Writable) (id : Nat)
    {x y : Binary64} (xDouble : shape.x.toDouble = .ok x) (yDouble : shape.y.toDouble = .ok y) :
    ∃ width height readX readY readWidth readHeight, shape.width.toDouble = .ok width ∧
      shape.height.toDouble = .ok height ∧
      (shape.cell id).element.ReadsBox readX readY readWidth readHeight ∧
      Same x readX ∧ Same y readY ∧ Same width readWidth ∧ Same height readHeight := by
  obtain ⟨geometry, only, box⟩ := Shape.cell_isBox isVertex writable id
  obtain ⟨-, -, ⟨width, widthDouble⟩, ⟨height, heightDouble⟩⟩ := writable
  obtain ⟨readX, xRead, xSame⟩ := box.x.reads xDouble
  obtain ⟨readY, yRead, ySame⟩ := box.y.reads yDouble
  obtain ⟨readWidth, widthRead, widthSame⟩ := box.width.reads widthDouble
  obtain ⟨readHeight, heightRead, heightSame⟩ := box.height.reads heightDouble
  exact ⟨width, height, readX, readY, readWidth, readHeight, widthDouble, heightDouble,
    ⟨geometry, only, xRead, yRead, widthRead, heightRead⟩, xSame, ySame, widthSame, heightSame⟩

/-- The line of a cell has the numbers of its shape, each rounded once. -/
theorem cell_readsLine (isEdge : shape.kind = .edge) (writable : shape.Writable) (id : Nat)
    {x y x' y' : Binary64} (xDouble : shape.x.toDouble = .ok x)
    (yDouble : shape.y.toDouble = .ok y) (widthDouble : shape.width.toDouble = .ok x')
    (heightDouble : shape.height.toDouble = .ok y') :
    ∃ readX readY readX' readY', (shape.cell id).element.ReadsLine readX readY readX' readY' ∧
      Same x readX ∧ Same y readY ∧ Same x' readX' ∧ Same y' readY' := by
  rcases shape.cell_cases with ⟨-, -, places⟩ | ⟨tooLarge, -⟩
  case inr => exact absurd writable tooLarge
  obtain ⟨geometry, only, -, -, line⟩ := places id
  have isLine : shape.kind.name = "edge".toList := by
    rw [isEdge]
    rfl
  rw [if_pos isLine] at line
  obtain ⟨source, target, ends, sourceEnd, targetEnd⟩ := line
  obtain ⟨readX, xRead, xSame⟩ := sourceEnd.x.reads xDouble
  obtain ⟨readY, yRead, ySame⟩ := sourceEnd.y.reads yDouble
  obtain ⟨readX', widthRead, widthSame⟩ := targetEnd.x.reads widthDouble
  obtain ⟨readY', heightRead, heightSame⟩ := targetEnd.y.reads heightDouble
  exact ⟨readX, readY, readX', readY',
    ⟨geometry, source, target, only, ends, sourceEnd.role, xRead, yRead, targetEnd.role,
      widthRead, heightRead⟩, xSame, ySame, widthSame, heightSame⟩

variable {config : LayoutConfig} {chart : Chart} {calls : List DrawingCall}

theorem text_drawn (isLabel : shape.style ∈ Style.labels) (isVertex : shape.kind = .vertex)
    (done : Preview.drawShape (.double 1) shape = { calls }) (id : Nat) :
    (shape.cell id).element.DrawnAs config chart calls := by
  obtain ⟨-, -, contained⟩ := Style.label_items _ isLabel
  have drawn := Preview.drawShape_text (not_isEdge isVertex) contained done
  unfold Element.DrawnAs
  rw [text_kind isLabel id]
  refine ⟨shape.value, rfl, ?_⟩
  rcases Preview.textCalls_ok drawn with ⟨empty, none⟩ | ⟨x, y, color, size, shown, -, once⟩
  · rw [if_pos empty]
    exact none
  · rw [if_neg shown]
    exact ⟨x, y, color, size, once⟩

/-- A box is drawn from the corner that its cell has to the sums of its corner and its sides. -/
theorem box_drawn (isVertex : shape.kind = .vertex) (empty : shape.value = [])
    (noText : (StyleTable.ofStyle shape.style).contains "text".toList = false)
    (writable : shape.Writable) (done : Preview.drawShape (.double 1) shape = { calls })
    (id : Nat) :
    ∃ span lineWidth x y width height right bottom,
      calls = [if (StyleTable.ofStyle shape.style).contains "ellipse".toList then
        .ellipse span ((StyleTable.ofStyle shape.style).color? "fillColor".toList)
          ((StyleTable.ofStyle shape.style).color? "strokeColor".toList) lineWidth
      else
        .rectangle span ((StyleTable.ofStyle shape.style).color? "fillColor".toList)
          ((StyleTable.ofStyle shape.style).color? "strokeColor".toList) lineWidth] ∧
      (shape.cell id).element.ReadsBox x y width height ∧ Same span.x0 x ∧ Same span.y0 y ∧
      shape.x.add shape.width = .ok right ∧ right.toDouble = .ok span.x1 ∧
      shape.y.add shape.height = .ok bottom ∧ bottom.toDouble = .ok span.y1 ∧
      (shape.x.SumsAlike shape.width → Same span.x1 (x + width)) ∧
      (shape.y.SumsAlike shape.height → Same span.y1 (y + height)) := by
  obtain ⟨lineWidth, drawn⟩ :=
    Preview.drawShape_box (not_isEdge isVertex) (Bool.eq_false_iff.1 noText) empty done
  obtain ⟨span, right, bottom, left, top, across, rightDouble, down, bottomDouble, shown⟩ :=
    Preview.boxCalls_ok drawn
  obtain ⟨width, height, readX, readY, readWidth, readHeight, widthDouble, heightDouble, reads,
    xSame, ySame, widthSame, heightSame⟩ := cell_readsBox isVertex writable id left top
  refine ⟨span, lineWidth, readX, readY, readWidth, readHeight, right, bottom, shown, reads, xSame,
    ySame, across, rightDouble, down, bottomDouble, fun alike => ?_, fun alike => ?_⟩
  · exact Binary64.same_trans _ _ _ (alike.add across left widthDouble rightDouble)
      (Binary64.add_same xSame widthSame)
  · exact Binary64.same_trans _ _ _ (alike.add down top heightDouble bottomDouble)
      (Binary64.add_same ySame heightSame)

theorem border_kind (style : shape.style = Style.border) (isVertex : shape.kind = .vertex)
    (id : Nat) : (shape.cell id).element.kind = .border := by
  obtain ⟨word, ellipseWord, -⟩ := Style.border_items
  rw [shape.cell_kind, style, word, ellipseWord, if_neg Bool.false_ne_true,
    if_neg (not_isEdge isVertex), if_neg Bool.false_ne_true]

theorem border_drawn
    (border : shape = Layout.vertex [] Style.border config.padding config.padding
      config.canvasSize config.canvasSize)
    (writable : shape.Writable) (done : Preview.drawShape (.double 1) shape = { calls })
    (id : Nat) : (shape.cell id).element.DrawnAs config chart calls := by
  have style : shape.style = Style.border := border ▸ rfl
  have isVertex : shape.kind = .vertex := border ▸ rfl
  have kind := border_kind style isVertex id
  obtain ⟨-, -, noText, noEllipse, fill, stroke⟩ := Style.border_items
  rw [← style] at noText noEllipse fill stroke
  obtain ⟨span, lineWidth, x, y, width, height, right, bottom, shown, reads, xSame, ySame, across,
    rightDouble, down, bottomDouble, xAlike, yAlike⟩ :=
    box_drawn isVertex (border ▸ rfl) noText writable done id
  rw [noEllipse, fill, stroke, if_neg Bool.false_ne_true] at shown
  have sameSum : right = bottom := by
    subst border
    exact Except.ok.inj (across.symm.trans down)
  subst border sameSum
  unfold Element.DrawnAs
  rw [kind]
  exact ⟨span, lineWidth, x, y, width, height, right, shown, reads, xSame, ySame, across,
    rightDouble, bottomDouble, fun alike => ⟨xAlike alike, yAlike alike⟩⟩

theorem marker_kind {point : Point} (place : Layout.PointPlace config point) (id : Nat) :
    (place.marker.cell id).element.kind = .marker := by
  have style : place.marker.style =
      Style.marker (Style.pointColor (.double point.x) (.double point.y)) := rfl
  have isVertex : place.marker.kind = .vertex := rfl
  obtain ⟨word, ellipseWord, -⟩ :=
    Style.marker_items _ (Style.pointColor_mem (.double point.x) (.double point.y))
  rw [Shape.cell_kind, style, word, ellipseWord, if_neg Bool.false_ne_true,
    if_neg (not_isEdge isVertex), if_pos rfl]

theorem marker_drawn {index : Nat} {point : Point} (found : chart.points[index]? = some point)
    (place : Layout.PointPlace config point) (writable : place.marker.Writable)
    (done : Preview.drawShape (.double 1) place.marker = { calls }) :
    (place.marker.cell (14 + 2 * index)).element.DrawnAs config chart calls := by
  obtain ⟨⟨left, leftDouble⟩, top, topDouble⟩ := place.corner_isDouble
  have kind := marker_kind place (14 + 2 * index)
  generalize made : place.marker = shape at writable done kind ⊢
  have style : shape.style = Style.marker (Style.pointColor (.double point.x) (.double point.y)) :=
    made ▸ rfl
  have isVertex : shape.kind = .vertex := made ▸ rfl
  have x : shape.x = .double left := made ▸ leftDouble
  have y : shape.y = .double top := made ▸ topDouble
  obtain ⟨-, -, noText, ellipse, fill, stroke⟩ :=
    Style.marker_items _ (Style.pointColor_mem (.double point.x) (.double point.y))
  rw [← style] at noText ellipse fill stroke
  obtain ⟨span, lineWidth, readX, readY, width, height, right, bottom, shown, reads, xSame, ySame,
    -, -, -, -, xAlike, yAlike⟩ :=
    box_drawn isVertex (made ▸ rfl) noText writable done (14 + 2 * index)
  rw [ellipse, fill, stroke, if_pos rfl] at shown
  unfold Element.DrawnAs
  rw [kind]
  refine ⟨index, point, span, lineWidth, readX, readY, width, height, found, rfl, shown, reads,
    xSame, ySame, xAlike fun first second integer => ?_, yAlike fun first second integer => ?_⟩
  · exact nomatch x.symm.trans integer
  · exact nomatch y.symm.trans integer

/-- A line along an axis is drawn as the divider that its cell shows. -/
theorem line_drawn (isDivider : shape.style = Style.divider) (isEdge : shape.kind = .edge)
    (writable : shape.Writable) {x y x' y' : Binary64} {left top right bottom : Nat}
    (xDouble : shape.x.toDouble = .ok x) (yDouble : shape.y.toDouble = .ok y)
    (widthDouble : shape.width.toDouble = .ok x') (heightDouble : shape.height.toDouble = .ok y')
    (xAmount : x.IsAmount left) (yAmount : y.IsAmount top) (widthAmount : x'.IsAmount right)
    (heightAmount : y'.IsAmount bottom) (xOrder : left ≤ right) (yOrder : top ≤ bottom)
    (axis : left = right ∨ top = bottom)
    (done : Preview.drawShape (.double 1) shape = { calls }) (id : Nat) :
    (shape.cell id).element.DrawnAs config chart calls := by
  have edge : shape.isEdge = true := by
    rw [Shape.isEdge, isEdge]
    rfl
  obtain ⟨word, ellipseWord, dashed, stroke⟩ := Style.divider_items
  rw [← isDivider] at word ellipseWord dashed stroke
  have kind : (shape.cell id).element.kind = .divider := by
    rw [shape.cell_kind, word, if_neg Bool.false_ne_true, if_pos edge]
  obtain ⟨readX, readY, readX', readY', reads, xSame, ySame, widthSame, heightSame⟩ :=
    cell_readsLine isEdge writable id xDouble yDouble widthDouble heightDouble
  obtain ⟨lineWidth, edgeDrawn⟩ := Preview.drawShape_edge edge done
  obtain ⟨_, _, _, _, xAgain, yAgain, widthAgain, heightAgain, drawn⟩ :=
    Preview.edgeCalls_dashed dashed edgeDrawn
  cases xDouble.symm.trans xAgain
  cases yDouble.symm.trans yAgain
  cases widthDouble.symm.trans widthAgain
  cases heightDouble.symm.trans heightAgain
  rw [stroke, Option.getD_some] at drawn
  have level : Binary64.roundedQuotient (right - left) 1 = 0 ∨
      Binary64.roundedQuotient (bottom - top) 1 = 0 := by
    rcases axis with rfl | rfl
    · exact .inl (by rw [Nat.sub_self]; rfl)
    · exact .inr (by rw [Nat.sub_self]; rfl)
  unfold Element.DrawnAs
  rw [kind]
  refine ⟨shape.style, "#b0b0b0".toList, readX, readY, readX', readY', shape.cell_style id, stroke,
    reads, ?_⟩
  rcases Preview.dashedCalls_axis (widthAmount.sub xAmount xOrder)
    (heightAmount.sub yAmount yOrder) level drawn with
    ⟨noWidth, noHeight, empty⟩ | ⟨first, rest, positive, shown, lines, xStart, yStart⟩
  · have sameX : right = left := by
      have := Binary64.roundedQuotient_one_zero noWidth
      omega
    have sameY : bottom = top := by
      have := Binary64.roundedQuotient_one_zero noHeight
      omega
    subst sameX sameY
    refine .inl ⟨?_, ?_, empty⟩
    · exact (xAmount.of_same xSame).same (widthAmount.of_same widthSame)
    · exact (yAmount.of_same ySame).same (heightAmount.of_same heightSame)
  · refine .inr ⟨fun coincide => ?_, first, rest, lineWidth, shown, lines,
      Binary64.same_trans _ _ _ xStart xSame, Binary64.same_trans _ _ _ yStart ySame⟩
    have sameX : left = right := ((xAmount.of_same xSame).of_same coincide.1).unique
      (widthAmount.of_same widthSame)
    have sameY : top = bottom := ((yAmount.of_same ySame).of_same coincide.2).unique
      (heightAmount.of_same heightSame)
    rw [sameX, sameY, Nat.sub_self, Nat.sub_self] at positive
    exact Nat.lt_irrefl 0 positive

/-- The shape that has a role in a layout is drawn as its cell shows it. -/
theorem role_drawn {index : Nat} {side : Int} (role : Layout.Role config chart index shape)
    (valid : config.validate = .ok ()) (page : Preview.pageSide config (.double 1) = .ok side)
    (writable : shape.Writable) (done : Preview.drawShape (.double 1) shape = { calls }) :
    (shape.cell (2 + index)).element.DrawnAs config chart calls := by
  cases role with
  | text isLabel isVertex => exact text_drawn isLabel isVertex done _
  | border => exact border_drawn rfl writable done _
  | marker found place =>
    rw [← Nat.add_assoc]
    exact marker_drawn found place writable done
  | divider frame member =>
    obtain ⟨padding, far, middle, near, reach, centre, paddingDouble, paddingAmount, farDouble,
      farAmount, order, middleDouble, middleAmount⟩ := frame.finite valid page
    have middleConverts : frame.middle.toDouble = .ok middle := by rw [middleDouble]; rfl
    rcases List.mem_cons.1 member with vertical | other
    · subst vertical
      exact line_drawn rfl rfl writable middleConverts paddingDouble middleConverts farDouble
        middleAmount paddingAmount middleAmount farAmount (Nat.le_refl _) order (.inl rfl) done _
    · cases List.mem_singleton.1 other
      exact line_drawn rfl rfl writable paddingDouble middleConverts farDouble middleConverts
        paddingAmount middleAmount farAmount middleAmount order (Nat.le_refl _) (.inr rfl) done _

/-- Shapes are drawn in the order of their cells, each as its cell shows it. -/
theorem shapes_drawn {shapes : List Shape} {groups : List (List DrawingCall)} {side : Int}
    (start : Nat)
    (each : List.Forall₂
      (fun shape group => Preview.drawShape (.double 1) shape = { calls := group }) shapes groups)
    (roles : ∀ pair ∈ shapes.zipIdx start, Layout.Role config chart pair.2 pair.1)
    (valid : config.validate = .ok ()) (page : Preview.pageSide config (.double 1) = .ok side)
    (writable : ∀ shape ∈ shapes, shape.Writable) :
    List.Forall₂ (Element.DrawnAs config chart) (cellsFrom (2 + start) shapes) groups := by
  induction each generalizing start with
  | nil => exact .nil
  | cons first others inductionHypothesis =>
    rw [List.zipIdx_cons] at roles
    obtain ⟨role, otherRoles⟩ := List.forall_mem_cons.1 roles
    obtain ⟨firstWritable, othersWritable⟩ := List.forall_mem_cons.1 writable
    exact .cons (role_drawn role valid page firstWritable first)
      (inductionHypothesis (start + 1) otherRoles othersWritable)

end Shape

end QuadrantChart
