/-
This file proves when a shape is drawn at a scale. A drawing takes no more than finite sizes of its
lines and letters, unless its dashes never end.
-/

import QuadrantChart.Proofs.Layout.Placement
import QuadrantChart.Proofs.Number.Scale
import QuadrantChart.Proofs.Preview.Drawing

namespace QuadrantChart

namespace Number

theorem IsDouble.convertible {number : Number} (isDouble : number.IsDouble) :
    number.Convertible := by
  obtain ⟨value, rfl⟩ := isDouble
  exact ⟨value, rfl⟩

variable {left right : Number}

/-- A number beside a floating point number gives one whenever it is convertible. -/
theorem combine_made {exact : Int → Int → Int} {rounded : Binary64 → Binary64 → Binary64}
    (one : left.IsDouble ∨ right.IsDouble) (leftFits : left.Convertible)
    (rightFits : right.Convertible) :
    ∃ value, combine exact rounded left right = .ok (.double value) := by
  obtain ⟨first, leftDouble⟩ := leftFits
  obtain ⟨second, rightDouble⟩ := rightFits
  rcases one with ⟨value, rfl⟩ | ⟨value, rfl⟩
  · exact ⟨_, combine_left_ok.2 ⟨second, rightDouble, rfl⟩⟩
  · exact ⟨_, combine_right_ok.2 ⟨first, leftDouble, rfl⟩⟩

theorem IsDouble.add (isDouble : right.IsDouble) (fits : left.Convertible) :
    ∃ value, left.add right = .ok (.double value) :=
  combine_made (.inr isDouble) fits isDouble.convertible

theorem IsDouble.sub (isDouble : left.IsDouble) (fits : right.Convertible) :
    ∃ value, left.sub right = .ok (.double value) :=
  combine_made (.inl isDouble) isDouble.convertible fits

theorem IsDouble.sub_left (isDouble : right.IsDouble) (fits : left.Convertible) :
    ∃ value, left.sub right = .ok (.double value) :=
  combine_made (.inr isDouble) fits isDouble.convertible

theorem IsDouble.mul (isDouble : left.IsDouble) (fits : right.Convertible) :
    ∃ value, left.mul right = .ok (.double value) :=
  combine_made (.inl isDouble) isDouble.convertible fits

/-- No integer among the scaled numbers is too large for another sum or difference. -/
def scaledLimit : Nat :=
  2 ^ 104

theorem Within.fits {number : Number} (within : number.Within scaledLimit) : number.Convertible :=
  (within.mono (by decide)).convertible

/-- What has no large integers can be scaled, also by a small integer. -/
theorem Within.scaled {number scale : Number} {limit : Nat} (within : number.Within limit)
    (order : limit ≤ 2 ^ 54) (small : scale.Within (2 ^ 50)) :
    ∃ product, number.mul scale = .ok product ∧ product.Within scaledLimit :=
  (within.mono order).mul small (by decide)

end Number

/-- The number of an item, or another one where the item is missing. -/
def StyleTable.number? (table : StyleTable) (key : Text) (missing : Binary64) : Option Binary64 :=
  match table.find? key with
  | none => some missing
  | some numeral => Numeral.read? numeral

namespace Drawing

theorem ofCalls_fault {result : Except Fault (List DrawingCall)} :
    (ofCalls result).fault = none ↔ ∃ calls, result = .ok calls := by
  cases result <;> simp [ofCalls]

theorem append_fault {first second : Drawing} :
    (first ++ second).fault = none ↔ first.fault = none ∧ second.fault = none := by
  change (Drawing.append first second).fault = none ↔ _
  unfold Drawing.append
  cases fault : first.fault <;> simp [fault]

/-- A drawing that needs a condition is drawn to its end only under it, and under it nothing but
endless dashes can stop it. -/
structure Needs (drawing : Drawing) (condition : Prop) : Prop where
  necessary : drawing.fault = none → condition
  sufficient : condition → drawing.fault = none ∨ drawing.fault = some .unending

variable {first second : Drawing} {early late : Prop}

theorem Needs.append (earlyNeeds : first.Needs early) (lateNeeds : second.Needs late) :
    (first ++ second).Needs (early ∧ late) := by
  change (Drawing.append first second).Needs _
  unfold Drawing.append
  constructor
  · intro done
    cases fault : first.fault with
    | none =>
      rw [fault] at done
      exact ⟨earlyNeeds.necessary fault, lateNeeds.necessary done⟩
    | some other =>
      rw [fault] at done
      cases fault.symm.trans done
  · rintro ⟨earlyHolds, lateHolds⟩
    rcases earlyNeeds.sufficient earlyHolds with fault | fault
    · rw [fault]
      exact lateNeeds.sufficient lateHolds
    · rw [fault]
      exact .inr fault

theorem ofCalls_needs {result : Except Fault (List DrawingCall)} {condition : Prop}
    (necessary : (∃ calls, result = .ok calls) → condition)
    (sufficient : condition → (∃ calls, result = .ok calls) ∨ result = .error .unending) :
    (ofCalls result).Needs condition := by
  constructor
  · intro done
    cases result with
    | ok calls => exact necessary ⟨calls, rfl⟩
    | error fault => cases done
  · intro holds
    rcases sufficient holds with ⟨calls, rfl⟩ | rfl
    · exact .inl rfl
    · exact .inr rfl

end Drawing

namespace Preview

/-- The number of a style item can be measured at a scale. -/
def Measures (style : StyleTable) (key : Text) (missing : Binary64) (scale : Number) : Prop :=
  ∃ value, style.number? key missing = some value ∧ (Number.double value).ScalesBy scale

/-- A text that is not empty can be written in the font of a style. -/
def Letters (style : StyleTable) (text : Text) (scale : Number) : Prop :=
  text ≠ [] →
    Measures style "fontSize".toList 12 scale ∧ (Number.integer text.length).Convertible

section Measure

variable {style : StyleTable} {key : Text} {missing scale : Binary64} {size : Int}

theorem measure_ok {scale : Number} :
    measure style key missing scale = .ok size ↔
      ∃ value, style.number? key missing = some value ∧
        (Number.double value).sizeAt scale = .ok size := by
  unfold measure StyleTable.number? Number.sizeAt
  cases style.find? key with
  | none => simp only [Result.bind_ok, Result.pure_ok, Option.some.injEq, exists_eq_left']
  | some numeral =>
    cases read : Numeral.read? numeral with
    | none => simp [read, Result.bind_ok]
    | some value =>
      simp only [read, Result.bind_ok, Result.pure_ok, Option.some.injEq, exists_eq_left']

theorem measure_positive {scale : Number} (measured : measure style key missing scale = .ok size) :
    1 ≤ size := by
  obtain ⟨_, -, sized⟩ := measure_ok.1 measured
  simp only [Number.sizeAt, Result.bind_ok, Result.pure_ok] at sized
  obtain ⟨_, -, nearest, -, rfl⟩ := sized
  exact Int.le_max_left 1 nearest

theorem measure_iff :
    (∃ size, measure style key missing (.double scale) = .ok size) ↔
      Measures style key missing (.double scale) := by
  simp only [measure_ok, Measures, ← Number.sizeAt_iff]
  constructor
  · rintro ⟨size, value, item, sized⟩
    exact ⟨value, item, size, sized⟩
  · rintro ⟨value, item, size, sized⟩
    exact ⟨size, value, item, sized⟩

theorem measure_error {fault : Fault}
    (fails : measure style key missing (.double scale) = .error fault) :
    ¬Measures style key missing (.double scale) := by
  rw [← measure_iff]
  rintro ⟨size, measured⟩
  cases fails.symm.trans measured

/-- Only the floating point number nearest to a scale matters to a measure. -/
theorem measure_converts {scale : Number} {factor : Binary64}
    (converts : scale.toDouble = .ok factor) :
    measure style key missing scale = measure style key missing (.double factor) := by
  have product (value : Binary64) :
      (Number.double value).mul scale = (Number.double value).mul (.double factor) :=
    Number.combine_left_ok.2 ⟨factor, converts, rfl⟩
  simp only [measure, product]

/-- A size is small enough for what the ink of a text is computed from. -/
theorem measure_modest (measured : measure style key missing (.double scale) = .ok size) :
    Number.IsModest size ∧ Number.IsModest (size / 4) := by
  obtain ⟨value, -, sized⟩ := measure_ok.1 measured
  have modest := Number.sizeAt_modest sized
  exact ⟨modest, modest.mono (by omega)⟩

end Measure

end Preview

namespace InkBox

variable {size : Int} {text : Text} {box : InkBox}

/-- The ink box of a text starts at small integers and ends at floating point numbers. -/
theorem ofText_ok (made : ofText size text = .ok box) :
    (Number.integer text.length).Convertible ∧ box.left = 1 ∧ box.top = .integer (size / 4) ∧
      box.right.IsDouble ∧ box.bottom.IsDouble := by
  simp only [ofText, Result.bind_ok, Result.pure_ok] at made
  obtain ⟨advance, advanced, across, product, right, rightSum, height, highProduct, bottom,
    bottomSum, rfl⟩ := made
  obtain ⟨advance, rfl⟩ := Number.combine_isDouble (.inl ⟨_, rfl⟩) advanced
  obtain ⟨count, counted, -⟩ := Number.combine_left_ok.1 product
  have acrossDouble := Number.combine_isDouble (.inl ⟨_, rfl⟩) product
  have heightDouble := Number.combine_isDouble (.inl ⟨_, rfl⟩) highProduct
  exact ⟨⟨count, counted⟩, rfl, rfl, Number.combine_isDouble (.inr acrossDouble) rightSum,
    Number.combine_isDouble (.inr heightDouble) bottomSum⟩

theorem one_convertible : (1 : Number).Convertible :=
  Number.Within.convertible (Number.within_integer (by decide))

theorem ofText_made (fits : (Number.integer size).Convertible)
    (topFits : (Number.integer (size / 4)).Convertible)
    (lengthFits : (Number.integer text.length).Convertible) :
    ∃ box, ofText size text = .ok box := by
  have double (value : Binary64) : (Number.double value).IsDouble := ⟨value, rfl⟩
  obtain ⟨advance, advanced⟩ := (double (5 / 8)).mul fits
  obtain ⟨across, product⟩ := (double advance).mul lengthFits
  obtain ⟨right, rightSum⟩ := (double across).add one_convertible
  obtain ⟨height, highProduct⟩ := (double (3 / 4)).mul fits
  obtain ⟨bottom, bottomSum⟩ := (double height).add topFits
  refine ⟨⟨1, .integer (size / 4), .double right, .double bottom⟩, ?_⟩
  simp only [ofText, Result.bind_ok, Result.pure_ok]
  exact ⟨_, advanced, _, product, _, rightSum, _, highProduct, _, bottomSum, rfl⟩

end InkBox

namespace Preview

/-- A text is aligned without large integers. -/
theorem alignedStart_made (style : StyleTable) {start width : Number}
    (startWithin : start.Within Number.scaledLimit) (widthWithin : width.Within Number.scaledLimit)
    (textWidth : Binary64) :
    ∃ value, alignedStart style start width (.double textWidth) = .ok value ∧
      value.Within Number.scaledLimit := by
  have double (value : Binary64) : (Number.double value).IsDouble := ⟨value, rfl⟩
  have centre : ∃ value, alignedStart.centred start width (.double textWidth) = .ok value ∧
      value.Within Number.scaledLimit := by
    obtain ⟨space, spared⟩ := Number.IsDouble.sub_left (double textWidth) widthWithin.fits
    obtain ⟨value, centred⟩ := (double (space / 2)).add startWithin.fits
    refine ⟨_, ?_, Number.within_double _ value⟩
    simp only [alignedStart.centred, Result.bind_ok]
    exact ⟨_, spared, _, rfl, centred⟩
  unfold alignedStart
  split
  · split_ifs
    · exact ⟨start, rfl, startWithin⟩
    · obtain ⟨far, sum, farWithin⟩ := startWithin.add widthWithin (by decide)
      obtain ⟨value, aligned⟩ := Number.IsDouble.sub_left (double textWidth)
        (farWithin.mono (by decide)).convertible
      exact ⟨_, Result.bind_ok.2 ⟨far, sum, aligned⟩, Number.within_double _ value⟩
    · exact centre
  · exact centre

section Scale

variable {shape : Shape} {scale : Number} {factor : Binary64}

/-- A shape without large integers has its text drawn whenever the text can be written. -/
theorem textCalls_iff {style : StyleTable} (moderate : shape.Moderate)
    (converts : scale.toDouble = .ok factor) (small : scale.Within (2 ^ 50)) :
    (∃ calls, textCalls shape style scale = .ok calls) ↔
      Letters style shape.value (.double factor) := by
  by_cases empty : shape.value = []
  · simp [textCalls, empty, Letters, Result.pure_ok]
  have shown : shape.value.isEmpty = false := by simp [empty]
  simp only [textCalls, textCall, shown, Bool.false_eq_true, if_false, Result.bind_ok,
    Result.pure_ok, measure_converts converts]
  constructor
  · rintro ⟨-, size, measured, _, ⟨ink, made, -⟩, -⟩ -
    exact ⟨measure_iff.1 ⟨size, measured⟩, (InkBox.ofText_ok made).1⟩
  · intro letters
    obtain ⟨measures, lengthFits⟩ := letters empty
    obtain ⟨size, measured⟩ := measure_iff.2 measures
    obtain ⟨modest, topModest⟩ := measure_modest measured
    -- From here on there are only floating point numbers and integers that stay small.
    obtain ⟨ink, made⟩ := InkBox.ofText_made modest.convertible topModest.convertible lengthFits
    obtain ⟨-, left, top, rightDouble, bottomDouble⟩ := InkBox.ofText_ok made
    have leftWithin : ink.left.Within 1 := left ▸ Number.within_integer (by decide)
    have leftFits : ink.left.Convertible := (leftWithin.mono (by decide)).convertible
    have topFits : ink.top.Convertible := top ▸ topModest.convertible
    obtain ⟨textWidth, wide⟩ := rightDouble.sub leftFits
    obtain ⟨textHeight, high⟩ := bottomDouble.sub topFits
    obtain ⟨boxX, scaledX, xWithin⟩ := moderate.x.scaled (by decide) small
    obtain ⟨boxY, scaledY, yWithin⟩ := moderate.y.scaled (by decide) small
    obtain ⟨boxWidth, scaledWidth, widthWithin⟩ := moderate.width.scaled (by decide) small
    obtain ⟨boxHeight, scaledHeight, heightWithin⟩ := moderate.height.scaled (by decide) small
    obtain ⟨x, aligned, alignedWithin⟩ := alignedStart_made style xWithin widthWithin textWidth
    have double (value : Binary64) : (Number.double value).IsDouble := ⟨value, rfl⟩
    obtain ⟨space, spared⟩ := Number.IsDouble.sub_left (double textHeight) heightWithin.fits
    obtain ⟨y, centred⟩ := (double (space / 2)).add yWithin.fits
    obtain ⟨inkX, inkLeft, inkWithin⟩ := alignedWithin.sub leftWithin (by decide)
    obtain ⟨callX, callXDouble⟩ := (inkWithin.mono (by decide)).convertible
    obtain ⟨inkY, inkTop⟩ := (double y).sub topFits
    exact ⟨_, size, measured, _, ⟨ink, made, _, wide, _, high, _, scaledX, _, scaledWidth, _,
      aligned, _, scaledY, _, scaledHeight, _, spared, _, rfl, _, centred, _, inkLeft, _,
      callXDouble, _, inkTop, _, rfl, rfl⟩, rfl⟩

/-- Between numbers without large integers, only endless dashes keep a line from being drawn. -/
theorem dashedCalls_ends {start stop : Number × Number}
    (startWithin : start.1.Within Number.scaledLimit ∧ start.2.Within Number.scaledLimit)
    (stopWithin : stop.1.Within Number.scaledLimit ∧ stop.2.Within Number.scaledLimit)
    (converts : scale.toDouble = .ok factor) (color : Text) (width : Int) :
    (∃ calls, dashedCalls start stop color width scale = .ok calls) ∨
      dashedCalls start stop color width scale = .error .unending := by
  have scaled (value : Binary64) :
      (Number.double value).mul scale = .ok (.double (value * factor)) :=
    Number.combine_left_ok.2 ⟨factor, converts, rfl⟩
  obtain ⟨across, acrossStep, acrossWithin⟩ := stopWithin.1.sub startWithin.1 (by decide)
  obtain ⟨down, downStep, downWithin⟩ := stopWithin.2.sub startWithin.2 (by decide)
  obtain ⟨acrossValue, acrossDouble⟩ := (acrossWithin.mono (by decide)).convertible
  obtain ⟨downValue, downDouble⟩ := (downWithin.mono (by decide)).convertible
  obtain ⟨x, xDouble⟩ := startWithin.1.fits
  obtain ⟨y, yDouble⟩ := startWithin.2.fits
  let line : DashedLine := ⟨start, acrossValue, downValue,
    ⟨Binary64.length acrossValue downValue, 6 * factor, 4 * factor⟩⟩
  have between : DashedLine.between start stop scale = .ok line :=
    DashedLine.between_ok.2 ⟨⟨_, scaled 6, rfl⟩, ⟨_, scaled 4, rfl⟩, ⟨_, acrossStep, acrossDouble⟩,
      ⟨_, downStep, downDouble⟩, rfl, rfl⟩
  by_cases flat : line.loop.limit.eq 0 = true
  · exact .inl ⟨[], dashedCalls_made.2 ⟨line, between, .inl ⟨flat, rfl⟩⟩⟩
  · cases divided : line.loop.intervals? 0 with
    | none =>
      refine .inr ?_
      simp only [dashedCalls, between, DashedLine.dashes, if_neg flat, divided,
        line.place_double xDouble yDouble, bind, Except.bind]
      rfl
    | some intervals =>
      -- No step of a single dash can fail.
      have drawn : ∃ calls, intervals.mapM (line.dash color width) = .ok calls := by
        rw [line.dash_drawn xDouble yDouble]
        exact ⟨_, List.mapM_pure⟩
      obtain ⟨calls, drawn⟩ := drawn
      exact .inl ⟨calls, dashedCalls_made.2 ⟨line, between, .inr ⟨intervals, flat, divided, drawn⟩⟩⟩

/-- An edge without large integers is drawn, unless its dashes never end. -/
theorem edgeCalls_ends (moderate : shape.Moderate) (converts : scale.toDouble = .ok factor)
    (small : scale.Within (2 ^ 50)) (style : StyleTable) (width : Int) :
    (∃ calls, edgeCalls shape style width scale = .ok calls) ∨
      edgeCalls shape style width scale = .error .unending := by
  obtain ⟨x, scaledX, xWithin⟩ := moderate.x.scaled (by decide) small
  obtain ⟨y, scaledY, yWithin⟩ := moderate.y.scaled (by decide) small
  obtain ⟨x', scaledWidth, widthWithin⟩ := moderate.width.scaled (by decide) small
  obtain ⟨y', scaledHeight, heightWithin⟩ := moderate.height.scaled (by decide) small
  obtain ⟨startX, startXDouble⟩ := xWithin.fits
  obtain ⟨startY, startYDouble⟩ := yWithin.fits
  obtain ⟨stopX, stopXDouble⟩ := widthWithin.fits
  obtain ⟨stopY, stopYDouble⟩ := heightWithin.fits
  simp only [edgeCalls, span, scaledX, scaledY, scaledWidth, scaledHeight, startXDouble,
    startYDouble, stopXDouble, stopYDouble, bind, Except.bind, pure, Except.pure]
  split_ifs with dashed
  · exact dashedCalls_ends ⟨xWithin, yWithin⟩ ⟨widthWithin, heightWithin⟩ converts _ width
  · exact .inl ⟨_, rfl⟩

/-- A box without large integers is drawn. -/
theorem boxCalls_made (moderate : shape.Moderate) (small : scale.Within (2 ^ 50))
    (style : StyleTable) (width : Int) :
    ∃ calls, boxCalls shape style width scale = .ok calls := by
  obtain ⟨right, across, rightWithin⟩ := moderate.x.add moderate.width (by decide)
  obtain ⟨bottom, down, bottomWithin⟩ := moderate.y.add moderate.height (by decide)
  obtain ⟨x, scaledX, xWithin⟩ := moderate.x.scaled (by decide) small
  obtain ⟨y, scaledY, yWithin⟩ := moderate.y.scaled (by decide) small
  obtain ⟨x', scaledRight, scaledRightWithin⟩ := rightWithin.scaled (by decide) small
  obtain ⟨y', scaledBottom, scaledBottomWithin⟩ := bottomWithin.scaled (by decide) small
  obtain ⟨startX, startXDouble⟩ := xWithin.fits
  obtain ⟨startY, startYDouble⟩ := yWithin.fits
  obtain ⟨stopX, stopXDouble⟩ := scaledRightWithin.fits
  obtain ⟨stopY, stopYDouble⟩ := scaledBottomWithin.fits
  simp only [boxCalls, span, scaledX, scaledY, across, scaledRight, down, scaledBottom,
    startXDouble, startYDouble, stopXDouble, stopYDouble, bind, Except.bind, pure, Except.pure]
  split_ifs <;> exact ⟨_, rfl⟩

end Scale

end Preview

/-- The line of a shape can be measured, and so can the letters of a vertex. -/
structure Shape.IsMeasured (shape : Shape) (scale : Number) : Prop where
  line : Preview.Measures (.ofStyle shape.style) "strokeWidth".toList 1 scale
  letters : ¬shape.isEdge = true → Preview.Letters (.ofStyle shape.style) shape.value scale

namespace Preview

variable {shape : Shape} {scale : Number} {factor : Binary64}

/-- A vertex without large integers is drawn exactly when it is measured. -/
theorem drawShape_vertex (isVertex : ¬shape.isEdge = true) (moderate : shape.Moderate)
    (converts : scale.toDouble = .ok factor) (small : scale.Within (2 ^ 50)) :
    (drawShape scale shape).fault = none ↔ shape.IsMeasured (.double factor) := by
  unfold drawShape
  extract_lets style text
  rw [measure_converts converts]
  cases measured : measure style "strokeWidth".toList 1 (.double factor) with
  | error fault => exact ⟨nofun, fun isMeasured => absurd isMeasured.line (measure_error measured)⟩
  | ok width =>
    have line := measure_iff.1 ⟨width, measured⟩
    have lettered : text.fault = none ↔ shape.IsMeasured (.double factor) := by
      rw [Drawing.ofCalls_fault, textCalls_iff moderate converts small]
      exact ⟨fun letters => ⟨line, fun _ => letters⟩, fun isMeasured => isMeasured.letters isVertex⟩
    simp only
    rw [if_neg isVertex]
    split_ifs
    · exact lettered
    · rw [Drawing.append_fault, Drawing.ofCalls_fault]
      exact (and_iff_right (boxCalls_made moderate small style width)).trans lettered

/-- A shape without large integers is drawn when it is measured. -/
theorem drawShape_needs (moderate : shape.Moderate) (converts : scale.toDouble = .ok factor)
    (small : scale.Within (2 ^ 50)) :
    (drawShape scale shape).Needs (shape.IsMeasured (.double factor)) := by
  by_cases isEdge : shape.isEdge = true
  · unfold drawShape
    extract_lets style text
    rw [measure_converts converts]
    cases measured : measure style "strokeWidth".toList 1 (.double factor) with
    | error fault =>
      exact ⟨nofun, fun isMeasured => absurd isMeasured.line (measure_error measured)⟩
    | ok width =>
      have line := measure_iff.1 ⟨width, measured⟩
      simp only
      rw [if_pos isEdge]
      exact Drawing.ofCalls_needs (fun _ => ⟨line, fun isVertex => absurd isEdge isVertex⟩)
        (fun _ => edgeCalls_ends moderate converts small style width)
  · have drawn := drawShape_vertex isEdge moderate converts small
    exact ⟨drawn.1, fun isMeasured => .inl (drawn.2 isMeasured)⟩

/-- A list of shapes is drawn when all of them are measured. -/
theorem drawShapes_needs {shapes : List Shape} (moderate : ∀ shape ∈ shapes, shape.Moderate)
    (converts : scale.toDouble = .ok factor) (small : scale.Within (2 ^ 50)) :
    (drawShapes scale shapes).Needs (∀ shape ∈ shapes, shape.IsMeasured (.double factor)) := by
  induction shapes with
  | nil => exact ⟨fun _ => by simp, fun _ => .inl rfl⟩
  | cons shape shapes inductionHypothesis =>
    obtain ⟨here, later⟩ := List.forall_mem_cons.1 moderate
    rw [List.forall_mem_cons]
    exact (drawShape_needs here converts small).append (inductionHypothesis later)

end Preview

end QuadrantChart
