/-
This file proves that a text is drawn so that the box of its ink lies in the box of its shape as
the alignment of its style says.
-/

import QuadrantChart.Proofs.Number.Sixteenths
import QuadrantChart.Proofs.Preview.Drawing
import QuadrantChart.Proofs.Preview.Measured
import QuadrantChart.Proofs.Preview.StyleTable

namespace QuadrantChart

inductive Alignment where
  | left
  | right
  | centre
  deriving DecidableEq

namespace Alignment

/-- The last item about the alignment counts. -/
def ofStyle (style : Text) : Alignment :=
  match (StyleTable.items style).reverse.lookup "align".toList with
  | some align =>
    if align = "left".toList then .left else if align = "right".toList then .right else .centre
  | none => .centre

/-- How far a text is moved from the left side of its box, in sixteenths. The width of the box is
given in ones, and that of the text in eighths of five. -/
def shift : Alignment → Int → Int → Int
  | .left, _, _ => 0
  | .right, boxWidth, textWidth => 16 * boxWidth - 2 * (5 * textWidth)
  | .centre, boxWidth, textWidth => 8 * boxWidth - 5 * textWidth

end Alignment

/-- The ink of a text that is drawn at a place lies in a box, at a scale, as an alignment says. -/
def InkBox.IsAligned (ink : InkBox) (alignment : Alignment) (across down : Binary64)
    (factor x y width height : Int) : Prop :=
  ∃ left top right bottom startX startY : ℚ, ink.left.HasValue left ∧ ink.top.HasValue top ∧
    ink.right.HasValue right ∧ ink.bottom.HasValue bottom ∧
    (Number.double across).HasValue startX ∧ (Number.double down).HasValue startY ∧
    (match alignment with
      | .left => startX + left = factor * x
      | .right => startX + right = factor * (x + width)
      | .centre => startX + (left + right) / 2 = factor * (x + (width : ℚ) / 2)) ∧
    startY + (top + bottom) / 2 = factor * (y + (height : ℚ) / 2)

/-- A number of either kind with the value of a small integer. -/
structure Number.IsSmallInteger (number : Number) (value : Int) : Prop where
  hasValue : number.HasValue value
  small : value.natAbs ≤ 2 ^ 20

/-- A shape whose numbers are small integers. -/
structure Shape.IsIntegral (shape : Shape) (x y width height : Int) : Prop where
  x : shape.x.IsSmallInteger x
  y : shape.y.IsSmallInteger y
  width : shape.width.IsSmallInteger width
  height : shape.height.IsSmallInteger height

namespace Number

theorem IsSmallInteger.ofSixteenths {number : Number} {value : Int}
    (isCount : number.IsSixteenths (16 * value)) (small : value.natAbs ≤ 2 ^ 20) :
    number.IsSmallInteger value := by
  have hasValue := isCount.hasValue
  rw [Int.cast_mul, Int.cast_ofNat, mul_div_cancel_left₀ _ (by decide)] at hasValue
  exact ⟨hasValue, small⟩

theorem product_small {first second : Int} (firstSmall : first.natAbs ≤ 2 ^ 20)
    (secondSmall : second.natAbs ≤ 2 ^ 20) : (first * second).natAbs ≤ 2 ^ 40 :=
  calc
    (first * second).natAbs = first.natAbs * second.natAbs := Int.natAbs_mul first second
    _ ≤ 2 ^ 20 * 2 ^ 20 := Nat.mul_le_mul firstSmall secondSmall
    _ = 2 ^ 40 := by decide

/-- A small integer is scaled by another one without rounding. -/
theorem IsSmallInteger.scaled {number scale : Number} {value factor : Int}
    (isInteger : number.IsSmallInteger value) (scaleInteger : scale.IsSmallInteger factor) :
    ∃ product, number.mul scale = .ok product ∧ product.IsSixteenths (16 * (factor * value)) ∧
      (factor * value).natAbs ≤ 2 ^ 40 := by
  have small := product_small scaleInteger.small isInteger.small
  have isSmall := isInteger.small
  have scaleSmall := scaleInteger.small
  have exact : 16 * value * (16 * factor) = 16 * (16 * (factor * value)) := by ring
  obtain ⟨product, multiplied, count⟩ := (isInteger.hasValue.isSixteenths (by omega)).mul
    (scaleInteger.hasValue.isSixteenths (by omega)) exact (by omega)
  exact ⟨product, multiplied, count, small⟩

theorem IsSmallInteger.within {number : Number} {value : Int} {limit : Nat}
    (isInteger : number.IsSmallInteger value) (order : 2 ^ 20 ≤ limit) : number.Within limit := by
  rintro integer rfl
  have equal : integer = value := Int.cast_injective isInteger.hasValue
  exact equal ▸ Nat.le_trans isInteger.small order

end Number

theorem Shape.IsIntegral.moderate {shape : Shape} {x y width height : Int}
    (integral : shape.IsIntegral x y width height) : shape.Moderate :=
  ⟨integral.x.within (by decide), integral.y.within (by decide),
    integral.width.within (by decide), integral.height.within (by decide)⟩

namespace InkBox

theorem advance_isSixteenths : (Number.double (5 / 8)).IsSixteenths 10 :=
  ⟨by decide +kernel, by decide⟩

theorem height_isSixteenths : (Number.double (3 / 4)).IsSixteenths 12 :=
  ⟨by decide +kernel, by decide⟩

/-- The ink of a short text in letters of a moderate size is a box of sixteenths. -/
theorem ofText_sixteenths {size : Int} {text : Text} (moderate : size.natAbs ≤ 2 ^ 20)
    (short : text.length ≤ 2 ^ 20) :
    ∃ ink, ofText size text = .ok ink ∧ ink.left.IsSixteenths 16 ∧
      ink.top.IsSixteenths (16 * (size / 4)) ∧
      ink.right.IsSixteenths (16 + 2 * (5 * (size * text.length))) ∧
      ink.bottom.IsSixteenths (16 * (size / 4) + 2 * (6 * size)) := by
  have integer (value : Int) (small : value.natAbs ≤ 2 ^ 20) :
      (Number.integer value).IsSixteenths (16 * value) :=
    ⟨Int.mul_comm value 16, by omega⟩
  have wide : (size * text.length).natAbs ≤ 2 ^ 40 := Number.product_small moderate short
  have top := integer (size / 4) (by omega)
  -- The sides are counted as doubles, since half of them is what centring needs.
  have advanceExact : 10 * (16 * size) = 16 * (10 * size) := by ring
  have acrossExact : 10 * size * (16 * text.length) = 16 * (2 * (5 * (size * text.length))) := by
    ring
  have heightExact : 12 * (16 * size) = 16 * (2 * (6 * size)) := by ring
  obtain ⟨advance, advanced, advanceCount⟩ :=
    advance_isSixteenths.mul (integer size moderate) advanceExact (by omega)
  obtain ⟨across, product, acrossCount⟩ :=
    advanceCount.mul (integer text.length short) acrossExact (by omega)
  obtain ⟨right, rightSum, rightCount⟩ := (integer 1 (by decide)).add acrossCount (by omega)
  obtain ⟨height, highProduct, heightCount⟩ :=
    height_isSixteenths.mul (integer size moderate) heightExact (by omega)
  obtain ⟨bottom, bottomSum, bottomCount⟩ := top.add heightCount (by omega)
  refine ⟨⟨1, .integer (size / 4), right, bottom⟩, ?_, integer 1 (by decide), top, rightCount,
    bottomCount⟩
  simp only [ofText, Result.bind_ok, Result.pure_ok]
  exact ⟨_, advanced, _, product, _, rightSum, _, highProduct, _, bottomSum, rfl⟩

end InkBox

namespace Preview

section Start

variable {start room part : Number} {x w t : Int} (startCount : start.IsSixteenths (16 * x))
  (roomCount : room.IsSixteenths (16 * w)) (partCount : part.IsSixteenths (2 * t))
  (startSmall : x.natAbs ≤ 2 ^ 40) (roomSmall : w.natAbs ≤ 2 ^ 40) (partSmall : t.natAbs ≤ 2 ^ 43)
include startCount roomCount partCount startSmall roomSmall partSmall

/-- A part is moved to the middle of the room for it without rounding. -/
theorem centred_sixteenths :
    ∃ space half place, room.sub part = .ok space ∧ space.half = .ok half ∧
      start.add half = .ok place ∧ place.IsSixteenths (16 * x + (8 * w - t)) := by
  obtain ⟨space, difference, spaceCount⟩ := roomCount.sub partCount (by omega)
  have twice : 16 * w - 2 * t = 2 * (8 * w - t) := by ring
  rw [twice] at spaceCount
  obtain ⟨half, halved, halfCount⟩ := spaceCount.half
  obtain ⟨place, sum, placeCount⟩ := startCount.add halfCount (by omega)
  exact ⟨space, half, place, difference, halved, sum, placeCount⟩

end Start

theorem alignedStart_ofStyle (style : Text) (start width textWidth : Number) :
    alignedStart (.ofStyle style) start width textWidth =
      match Alignment.ofStyle style with
      | .left => .ok start
      | .right => do (← start.add width).sub textWidth
      | .centre => alignedStart.centred start width textWidth := by
  rw [alignedStart, StyleTable.find?_ofStyle, Alignment.ofStyle]
  cases (StyleTable.items style).reverse.lookup "align".toList with
  | none => rfl
  | some align =>
    dsimp only
    split_ifs <;> rfl

/-- A text is aligned without rounding. -/
theorem alignedStart_sixteenths (style : Text) {start width textWidth : Number} {x w t : Int}
    (startCount : start.IsSixteenths (16 * x)) (widthCount : width.IsSixteenths (16 * w))
    (textCount : textWidth.IsSixteenths (2 * (5 * t))) (startSmall : x.natAbs ≤ 2 ^ 40)
    (widthSmall : w.natAbs ≤ 2 ^ 40) (textSmall : t.natAbs ≤ 2 ^ 40) :
    ∃ place, alignedStart (.ofStyle style) start width textWidth = .ok place ∧
      place.IsSixteenths (16 * x + (Alignment.ofStyle style).shift w t) := by
  rw [alignedStart_ofStyle]
  cases Alignment.ofStyle style with
  | left => exact ⟨start, rfl, by rwa [Alignment.shift, Int.add_zero]⟩
  | right =>
    obtain ⟨far, sum, farCount⟩ := startCount.add widthCount (by omega)
    obtain ⟨place, difference, placeCount⟩ := farCount.sub textCount (by omega)
    rw [Int.add_sub_assoc] at placeCount
    exact ⟨place, Result.bind_ok.2 ⟨far, sum, difference⟩, placeCount⟩
  | centre =>
    obtain ⟨space, half, place, difference, halved, sum, placeCount⟩ :=
      centred_sixteenths startCount widthCount textCount startSmall widthSmall (by omega)
    refine ⟨place, ?_, placeCount⟩
    simp only [alignedStart.centred, Result.bind_ok]
    exact ⟨space, difference, half, halved, sum⟩

theorem shift_small (alignment : Alignment) {w t : Int} (widthSmall : w.natAbs ≤ 2 ^ 40)
    (textSmall : t.natAbs ≤ 2 ^ 40) : (alignment.shift w t).natAbs ≤ 2 ^ 45 := by
  cases alignment <;> simp only [Alignment.shift] <;> omega

section Text

variable {shape : Shape} {scale : Number} {x y width height factor : Int}
  (integral : shape.IsIntegral x y width height) (scaleInteger : scale.IsSmallInteger factor)
  (short : shape.value.length ≤ 2 ^ 20)
include integral scaleInteger short

/-- A text in letters of a moderate size is drawn, and its ink is aligned. -/
theorem textCalls_aligned (nonempty : shape.value ≠ []) {size : Int}
    (measured : measure (.ofStyle shape.style) "fontSize".toList 12 scale = .ok size)
    (moderate : size.natAbs ≤ 2 ^ 20) :
    let color := ((StyleTable.ofStyle shape.style).color? "fontColor".toList).getD black
    ∃ ink across down, InkBox.ofText size shape.value = .ok ink ∧
      textCalls shape (.ofStyle shape.style) scale =
        .ok [.text across down shape.value color size] ∧
      ink.IsAligned (.ofStyle shape.style) across down factor x y width height := by
  intro color
  have wide : (size * shape.value.length).natAbs ≤ 2 ^ 40 := Number.product_small moderate short
  obtain ⟨ink, made, left, top, right, bottom⟩ := InkBox.ofText_sixteenths moderate short
  obtain ⟨boxX, scaledX, xCount, xSmall⟩ := integral.x.scaled scaleInteger
  obtain ⟨boxY, scaledY, yCount, ySmall⟩ := integral.y.scaled scaleInteger
  obtain ⟨boxWidth, scaledWidth, widthCount, widthSmall⟩ := integral.width.scaled scaleInteger
  obtain ⟨boxHeight, scaledHeight, heightCount, heightSmall⟩ := integral.height.scaled scaleInteger
  obtain ⟨textWidth, inkWidth, textWidthCount⟩ := right.sub left (by omega)
  obtain ⟨textHeight, inkHeight, textHeightCount⟩ := bottom.sub top (by omega)
  rw [add_sub_cancel_left] at textWidthCount textHeightCount
  obtain ⟨start, aligned, startCount⟩ := alignedStart_sixteenths shape.style xCount widthCount
    textWidthCount xSmall widthSmall wide
  obtain ⟨space, half, middle, spared, halved, centred, middleCount⟩ :=
    centred_sixteenths yCount heightCount textHeightCount ySmall heightSmall (by omega)
  have shiftSmall := shift_small (.ofStyle shape.style) widthSmall wide
  -- The text is drawn as far before its ink as the ink begins behind the place of a text.
  obtain ⟨inkX, inkLeft, inkXCount⟩ := startCount.sub left (by omega)
  obtain ⟨inkY, inkTop, inkYCount⟩ := middleCount.sub top (by omega)
  obtain ⟨across, acrossDouble, acrossCount⟩ := inkXCount.toDouble
  obtain ⟨down, downDouble, downCount⟩ := inkYCount.toDouble
  have shown : shape.value.isEmpty = false := by simp [nonempty]
  refine ⟨ink, across, down, made, ?_, _, _, _, _, _, _, left.hasValue, top.hasValue,
    right.hasValue, bottom.hasValue, Number.IsSixteenths.hasValue ⟨acrossCount, inkXCount.small⟩,
    Number.IsSixteenths.hasValue ⟨downCount, inkYCount.small⟩, ?_, ?_⟩
  · simp only [textCalls, textCall, shown, Bool.false_eq_true, if_false, Result.bind_ok,
      Result.pure_ok]
    exact ⟨size, measured, _, ⟨ink, made, textWidth, inkWidth, textHeight, inkHeight, boxX, scaledX,
      boxWidth, scaledWidth, start, aligned, boxY, scaledY, boxHeight, scaledHeight, space, spared,
      half, halved, middle, centred, inkX, inkLeft, across, acrossDouble, inkY, inkTop, down,
      downDouble, rfl⟩, rfl⟩
  · cases Alignment.ofStyle shape.style <;> simp only [Alignment.shift] <;> push_cast <;> ring
  · push_cast
    ring

end Text

end Preview

/-- The text of a shape is drawn in letters of a size. Its line is measured first, though a text has
none. -/
structure Shape.IsLettered (shape : Shape) (scale : Number) (size : Int) : Prop where
  isVertex : ¬shape.isEdge = true
  nonempty : shape.value ≠ []
  line : ∃ width, Preview.measure (.ofStyle shape.style) "strokeWidth".toList 1 scale = .ok width
  letters : Preview.measure (.ofStyle shape.style) "fontSize".toList 12 scale = .ok size

def DrawingCall.isText : DrawingCall → Bool
  | .text .. => true
  | _ => false

namespace Preview

section Calls

variable {shape : Shape} {style : StyleTable} {scale : Number} {width : Int}
  {calls : List DrawingCall} {call : DrawingCall}

theorem dashedCalls_textless {start stop : Number × Number} {color : Text}
    (drawn : dashedCalls start stop color width scale = .ok calls) (member : call ∈ calls) :
    call.isText = false := by
  obtain ⟨line, -, ⟨-, rfl⟩ | ⟨intervals, -, -, placed⟩⟩ := dashedCalls_made.1 drawn
  · cases member
  · obtain ⟨interval, -, made⟩ := Result.mapM_mem placed member
    simp only [DashedLine.dash, Result.bind_ok, Result.pure_ok] at made
    obtain ⟨_, -, _, -, _, -, rfl⟩ := made
    rfl

theorem edgeCalls_textless (drawn : edgeCalls shape style width scale = .ok calls)
    (member : call ∈ calls) : call.isText = false := by
  simp only [edgeCalls, Result.bind_ok] at drawn
  obtain ⟨_, -, _, -, _, -, _, -, drawn⟩ := drawn
  split_ifs at drawn
  · exact dashedCalls_textless drawn member
  · obtain ⟨_, -, made⟩ := Result.bind_ok.1 drawn
    cases made
    cases List.mem_singleton.1 member
    rfl

theorem boxCalls_textless (drawn : boxCalls shape style width scale = .ok calls)
    (member : call ∈ calls) : call.isText = false := by
  simp only [boxCalls, Result.bind_ok] at drawn
  obtain ⟨_, -, _, -, _, -, _, -, _, -, _, -, _, -, drawn⟩ := drawn
  split_ifs at drawn <;> cases drawn <;> cases List.mem_singleton.1 member <;> rfl

/-- The texts of a drawing are those of vertices, whatever else is drawn for them. -/
theorem text_mem_drawShape (moderate : shape.Moderate) (small : scale.Within (2 ^ 50))
    (isText : call.isText = true) :
    call ∈ (drawShape scale shape).calls ↔ ¬shape.isEdge = true ∧
      (∃ width, measure (.ofStyle shape.style) "strokeWidth".toList 1 scale = .ok width) ∧
      ∃ calls, textCalls shape (.ofStyle shape.style) scale = .ok calls ∧ call ∈ calls := by
  have other {result : Except Fault (List DrawingCall)}
      (textless : ∀ calls, result = .ok calls → ∀ call ∈ calls, call.isText = false) :
      call ∉ (Drawing.ofCalls result).calls := by
    rw [Drawing.mem_ofCalls]
    rintro ⟨calls, made, member⟩
    cases isText.symm.trans (textless calls made call member)
  unfold drawShape
  extract_lets style text
  have written : call ∈ text.calls ↔ ∃ calls, textCalls shape style scale = .ok calls ∧
    call ∈ calls := Drawing.mem_ofCalls
  cases measured : measure style "strokeWidth".toList 1 scale with
  | error fault => simp
  | ok width =>
    -- An edge has no text, and the box in front of the text of a vertex cannot fail.
    have lined : ∃ line, (.ok width : Except Fault Int) = .ok line := ⟨width, rfl⟩
    dsimp only
    split_ifs with isEdge onlyText
    · have lines : call ∉ (Drawing.ofCalls (edgeCalls shape style width scale)).calls :=
        other fun _ made _ member => edgeCalls_textless made member
      exact iff_of_false lines fun vertex => vertex.1 isEdge
    · rw [written, and_iff_right isEdge, and_iff_right lined]
    · have boxed := boxCalls_made moderate small style width
      have boxOther : call ∉ (Drawing.ofCalls (boxCalls shape style width scale)).calls :=
        other fun _ made _ member => boxCalls_textless made member
      rw [Drawing.mem_append, or_iff_right boxOther, Drawing.ofCalls_fault, written,
        and_iff_right boxed, and_iff_right isEdge, and_iff_right lined]

end Calls

/-- The ink of a text lies in the box of its shape as the last alignment of the style says. Integers
of up to `2 ^ 20` and as many letters are drawn without rounding. -/
theorem drawShape_aligned {shape : Shape} {scale : Number} {x y width height factor size : Int}
    (integral : shape.IsIntegral x y width height) (scaleInteger : scale.IsSmallInteger factor)
    (short : shape.value.length ≤ 2 ^ 20) (moderate : size ≤ 2 ^ 20) :
    (shape.IsLettered scale size ↔ ∃ across down text color,
      .text across down text color size ∈ (drawShape scale shape).calls) ∧
    ∀ across down text color, .text across down text color size ∈ (drawShape scale shape).calls →
      text = shape.value ∧ ∃ ink, InkBox.ofText size text = .ok ink ∧
        ink.IsAligned (.ofStyle shape.style) across down factor x y width height := by
  have drawn {across down : Binary64} {text color : Text} :=
    text_mem_drawShape integral.moderate (scaleInteger.within (by decide))
      (rfl : (DrawingCall.text across down text color size).isText = true)
  have placed (lettered : shape.IsLettered scale size) := by
    -- No letters are smaller than one, so the bound from above is one of the magnitude.
    have positive := measure_positive lettered.letters
    exact textCalls_aligned integral scaleInteger short lettered.nonempty lettered.letters
      (by omega)
  have lettered {across down : Binary64} {text color : Text}
      (member : .text across down text color size ∈ (drawShape scale shape).calls) :
      shape.IsLettered scale size := by
    obtain ⟨isVertex, line, calls, made, written⟩ := drawn.1 member
    rcases textCalls_ok made with ⟨-, rfl⟩ | ⟨_, _, _, _, nonempty, letters, rfl⟩
    · cases written
    · cases List.mem_singleton.1 written
      exact ⟨isVertex, nonempty, line, letters⟩
  refine ⟨⟨fun isLettered => ?_, fun ⟨_, _, _, _, member⟩ => lettered member⟩,
    fun across down text color member => ?_⟩
  · obtain ⟨ink, across, down, -, made, -⟩ := placed isLettered
    exact ⟨across, down, _, _, drawn.2 ⟨isLettered.isVertex, isLettered.line, _, made,
      List.mem_singleton_self _⟩⟩
  · obtain ⟨ink, _, _, inked, made, aligned⟩ := placed (lettered member)
    obtain ⟨-, -, calls, found, written⟩ := drawn.1 member
    cases found.symm.trans made
    cases List.mem_singleton.1 written
    exact ⟨rfl, ink, inked, aligned⟩

/-- The last of two alignments puts a letter at the right side of its box, at a scale of three. -/
theorem drawShape_aligned_last :
    let shape : Shape := {
      value := ['A']
      style := "text;align=left;fontSize=7;align=right".toList
      x := .double 5
      y := .integer (-3)
      width := .double 101
      height := .integer 8 }
    let ink : InkBox := ⟨1, .integer 5, .double (113 / 8), .double (83 / 4)⟩
    shape.IsIntegral 5 (-3) 101 8 ∧ (Number.double 3).IsSmallInteger 3 ∧
      shape.value.length ≤ 2 ^ 20 ∧ (21 : Int) ≤ 2 ^ 20 ∧
      drawShape (.double 3) shape =
        { calls := [.text (2431 / 8) (-(79 / 8)) ['A'] black 21] } ∧
      InkBox.ofText 21 ['A'] = .ok ink ∧
      ink.IsAligned .right (2431 / 8) (-(79 / 8)) 3 5 (-3) 101 8 := by
  intro shape ink
  have integral : shape.IsIntegral 5 (-3) 101 8 :=
    ⟨.ofSixteenths ⟨by decide +kernel, by decide⟩ (by decide), ⟨rfl, by decide⟩,
      .ofSixteenths ⟨by decide +kernel, by decide⟩ (by decide), ⟨rfl, by decide⟩⟩
  have scaleInteger : (Number.double 3).IsSmallInteger 3 :=
    .ofSixteenths ⟨by decide +kernel, by decide⟩ (by decide)
  have drawn : drawShape (.double 3) shape =
      { calls := [.text (2431 / 8) (-(79 / 8)) ['A'] black 21] } := by decide +kernel
  have inked : InkBox.ofText 21 ['A'] = .ok ink := by decide +kernel
  have last : Alignment.ofStyle shape.style = .right := by decide
  have member : .text (2431 / 8) (-(79 / 8)) ['A'] black 21 ∈ (drawShape (.double 3) shape).calls :=
    drawn ▸ List.mem_singleton_self _
  obtain ⟨-, placed⟩ := drawShape_aligned integral scaleInteger (by decide : 1 ≤ 2 ^ 20)
    (by decide : (21 : Int) ≤ 2 ^ 20)
  obtain ⟨-, _, made, aligned⟩ := placed _ _ _ _ member
  cases inked.symm.trans made
  exact ⟨integral, scaleInteger, by decide, by decide, drawn, inked, last ▸ aligned⟩

end Preview

end QuadrantChart
