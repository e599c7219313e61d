/-
This file says what each shape of a layout is for.
-/

import QuadrantChart.Proofs.Layout.Shapes
import QuadrantChart.Proofs.Number.Sum

namespace QuadrantChart

namespace Layout

variable {config : LayoutConfig} {chart : Chart}

/-- The corner of a marker is in floating point numbers, as the coordinates of its point are. -/
theorem PointPlace.corner_isDouble {point : Point} (place : PointPlace config point) :
    place.left.IsDouble ∧ place.top.IsDouble := by
  obtain ⟨across, down, radius, left, top, labelLeft, labelTop, centre, halved, leftOfCentre,
    aboveCentre, -, -⟩ := place
  simp only [toCanvas, Result.bind_ok, Result.pure_ok, Prod.mk.injEq] at centre
  obtain ⟨wide, wideProduct, _, acrossSum, high, highProduct, upward, difference, _, downSum, rfl,
    rfl⟩ := centre
  have wideDouble := Number.combine_isDouble (.inl ⟨_, rfl⟩) wideProduct
  have highDouble := Number.combine_isDouble (.inl ⟨_, rfl⟩) highProduct
  have acrossDouble := Number.combine_isDouble (.inr wideDouble) acrossSum
  have upwardDouble := Number.combine_isDouble (.inr highDouble) difference
  have downDouble := Number.combine_isDouble (.inr upwardDouble) downSum
  exact ⟨Number.combine_isDouble (.inl acrossDouble) leftOfCentre,
    Number.combine_isDouble (.inl downDouble) aboveCentre⟩

/-- What the shape at an index shows of a chart. -/
inductive Role (config : LayoutConfig) (chart : Chart) : Nat → Shape → Prop where
  | text {index : Nat} {shape : Shape} (isLabel : shape.style ∈ Style.labels)
      (isVertex : shape.kind = .vertex) : Role config chart index shape
  | border : Role config chart 1
      (vertex [] Style.border config.padding config.padding config.canvasSize config.canvasSize)
  | divider {index : Nat} {shape : Shape} (frame : FramePlace config)
      (member : shape ∈ frame.dividers) : Role config chart index shape
  | marker {index : Nat} {point : Point} (found : chart.points[index]? = some point)
      (place : PointPlace config point) : Role config chart (12 + 2 * index) place.marker

theorem FramePlace.shapes_roles (frame : FramePlace config) :
    ∀ pair ∈ (frame.shapes chart).zipIdx, Role config chart pair.2 pair.1 := by
  have vertical : edge Style.divider (frame.middle, config.padding) (frame.middle, frame.far) ∈
      frame.dividers := .head _
  have horizontal : edge Style.divider (config.padding, frame.middle) (frame.far, frame.middle) ∈
      frame.dividers := .tail _ (.head _)
  simp only [shapes, frameShapes, captionShapes, dividers, labels, List.cons_append,
    List.nil_append, List.zipIdx_cons, List.zipIdx_nil, List.forall_mem_cons]
  have text (style : Text) (isLabel : style ∈ Style.labels) (index : Nat) (value : Text)
      (x y width height : Number) :
      Role config chart index (vertex value style x y width height) := .text isLabel rfl
  have title := text Style.title (by simp)
  have watermark := text Style.watermark (by simp)
  have axis := text Style.axisLabel (by simp)
  exact ⟨title .., .border, watermark .., watermark .., watermark .., watermark ..,
    .divider frame vertical, .divider frame horizontal, text Style.lowLabel (by simp) ..,
    text Style.highLabel (by simp) .., axis .., axis .., by simp⟩

/-- The shapes of points alternate between markers and labels. -/
theorem points_roles {points : List Point} {shapes : List (List Shape)} (start : Nat)
    (each : List.Forall₂ (fun point shapes => ∃ place : PointPlace config point,
      shapes = [place.marker, place.label]) points shapes)
    (behind : ∀ index, points[index]? = chart.points[start + index]?) :
    ∀ pair ∈ shapes.flatten.zipIdx (12 + 2 * start), Role config chart pair.2 pair.1 := by
  induction each generalizing start with
  | nil => simp
  | cons first others inductionHypothesis =>
    obtain ⟨place, rfl⟩ := first
    have found := (behind 0).symm
    rw [List.getElem?_cons_zero, Nat.add_zero] at found
    have rest := inductionHypothesis (start + 1) fun index => by
      have next := behind (index + 1)
      rwa [List.getElem?_cons_succ, Nat.add_comm index, ← Nat.add_assoc] at next
    rw [List.flatten_cons]
    simp only [List.cons_append, List.nil_append, List.zipIdx_cons, List.forall_mem_cons]
    exact ⟨.marker found place, .text place.label_style_mem rfl, rest⟩

theorem shapes_roles {shapes : List Shape} (placed : Layout.shapes config chart = .ok shapes) :
    ∀ pair ∈ shapes.zipIdx, Role config chart pair.2 pair.1 := by
  obtain ⟨-, frame, points, each, rfl⟩ := shapes_ok placed
  have twelve : (frame.shapes chart).length = 12 := rfl
  intro pair member
  rw [List.zipIdx_append, twelve] at member
  rcases List.mem_append.1 member with early | late
  · exact frame.shapes_roles pair early
  · refine points_roles 0 each (fun index => ?_) pair late
    rw [Nat.zero_add]

end Layout

end QuadrantChart
