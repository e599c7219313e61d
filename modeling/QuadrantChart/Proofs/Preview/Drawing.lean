/-
This file takes apart drawings without a fault: the calls of shapes follow one another, and the
calls of a shape depend on its style.
-/

import QuadrantChart.Preview.Basic
import QuadrantChart.Proofs.Layout.Shapes
import QuadrantChart.Proofs.Number.Shift

namespace QuadrantChart

namespace Drawing

theorem ofCalls_done {calls : List DrawingCall} {result : Except Fault (List DrawingCall)} :
    ofCalls result = { calls } ↔ result = .ok calls := by
  cases result <;> simp [ofCalls]

/-- Two drawings end without a fault when both of them do. -/
theorem append_done {first second : Drawing} {calls : List DrawingCall} :
    first ++ second = { calls } ↔
      ∃ early late, first = { calls := early } ∧ second = { calls := late } ∧
        calls = early ++ late := by
  obtain ⟨early, fault⟩ := first
  obtain ⟨late, lateFault⟩ := second
  change append _ _ = _ ↔ _
  cases fault <;> simp [append, eq_comm, and_comm]

theorem append_none {first second : Drawing} (done : first.fault = none) :
    first ++ second = { second with calls := first.calls ++ second.calls } := by
  change append first second = _
  rw [append, done]

theorem append_some {first second : Drawing} (failed : first.fault ≠ none) :
    first ++ second = first := by
  change append first second = _
  unfold append
  cases fault : first.fault with
  | none => exact absurd fault failed
  | some fault => rfl

theorem mem_ofCalls {call : DrawingCall} {result : Except Fault (List DrawingCall)} :
    call ∈ (ofCalls result).calls ↔ ∃ calls, result = .ok calls ∧ call ∈ calls := by
  cases result <;> simp [ofCalls]

theorem mem_append {call : DrawingCall} {first second : Drawing} :
    call ∈ (first ++ second).calls ↔
      call ∈ first.calls ∨ first.fault = none ∧ call ∈ second.calls := by
  by_cases done : first.fault = none
  · rw [append_none done, List.mem_append, and_iff_right done]
  · rw [append_some done, or_iff_left fun later => done later.1]

theorem append_assoc (first second third : Drawing) :
    first ++ second ++ third = first ++ (second ++ third) := by
  obtain ⟨calls, fault⟩ := first
  cases fault with
  | some fault => rfl
  | none =>
    obtain ⟨laterCalls, laterFault⟩ := second
    cases laterFault with
    | some fault => rfl
    | none =>
      exact congrArg (fun all => Drawing.mk all third.fault) (List.append_assoc ..)

end Drawing

namespace Preview

theorem image_ok {preview : Preview} {file : Text} (drawn : preview.image = .ok file) :
    preview.drawing = { calls := preview.drawing.calls } := by
  obtain ⟨side, calls, fault⟩ := preview
  cases fault with
  | none => rfl
  | some fault => cases drawn

/-- Without a fault, the drawing of shapes is that of each shape in turn. -/
theorem drawShapes_done {scale : Number} {shapes : List Shape} {calls : List DrawingCall}
    (done : drawShapes scale shapes = { calls }) :
    ∃ groups, calls = groups.flatten ∧
      List.Forall₂ (fun shape group => drawShape scale shape = { calls := group }) shapes
        groups := by
  induction shapes generalizing calls with
  | nil =>
    cases done
    exact ⟨[], rfl, .nil⟩
  | cons shape shapes inductionHypothesis =>
    obtain ⟨early, late, first, others, rfl⟩ := Drawing.append_done.1 done
    obtain ⟨groups, rfl, each⟩ := inductionHypothesis others
    exact ⟨early :: groups, rfl, .cons first each⟩

section Shapes

variable {scale : Number} {shape : Shape} {calls : List DrawingCall}

theorem drawShape_measured (done : drawShape scale shape = { calls }) :
    ∃ width, (if shape.isEdge then
        Drawing.ofCalls (edgeCalls shape (.ofStyle shape.style) width scale)
      else if (StyleTable.ofStyle shape.style).contains "text".toList then
        Drawing.ofCalls (textCalls shape (.ofStyle shape.style) scale)
      else Drawing.ofCalls (boxCalls shape (.ofStyle shape.style) width scale) ++
        Drawing.ofCalls (textCalls shape (.ofStyle shape.style) scale)) = { calls } := by
  unfold drawShape at done
  extract_lets style at done
  cases measured : measure style "strokeWidth".toList 1 scale with
  | error fault =>
    rw [measured] at done
    cases done
  | ok width =>
    rw [measured] at done
    exact ⟨width, done⟩

theorem drawShape_edge (isEdge : shape.isEdge = true)
    (done : drawShape scale shape = { calls }) :
    ∃ width, edgeCalls shape (.ofStyle shape.style) width scale = .ok calls := by
  obtain ⟨width, drawn⟩ := drawShape_measured done
  rw [if_pos isEdge] at drawn
  exact ⟨width, Drawing.ofCalls_done.1 drawn⟩

theorem drawShape_text (isVertex : ¬shape.isEdge = true)
    (isText : (StyleTable.ofStyle shape.style).contains "text".toList = true)
    (done : drawShape scale shape = { calls }) :
    textCalls shape (.ofStyle shape.style) scale = .ok calls := by
  obtain ⟨width, drawn⟩ := drawShape_measured done
  rw [if_neg isVertex, if_pos isText] at drawn
  exact Drawing.ofCalls_done.1 drawn

/-- A box without a value is drawn alone. -/
theorem drawShape_box (isVertex : ¬shape.isEdge = true)
    (noText : ¬(StyleTable.ofStyle shape.style).contains "text".toList = true)
    (empty : shape.value = []) (done : drawShape scale shape = { calls }) :
    ∃ width, boxCalls shape (.ofStyle shape.style) width scale = .ok calls := by
  obtain ⟨width, drawn⟩ := drawShape_measured done
  have silent : textCalls shape (.ofStyle shape.style) scale = .ok [] := by
    rw [textCalls, empty]
    rfl
  rw [if_neg isVertex, if_neg noText, silent] at drawn
  obtain ⟨early, late, box, text, rfl⟩ := Drawing.append_done.1 drawn
  cases text
  rw [List.append_nil]
  exact ⟨width, Drawing.ofCalls_done.1 box⟩

/-- A text is drawn once, in letters of the measured size, unless it is empty. -/
theorem textCalls_ok {style : StyleTable} (drawn : textCalls shape style scale = .ok calls) :
    (shape.value = [] ∧ calls = []) ∨
      ∃ x y color size, shape.value ≠ [] ∧
        measure style "fontSize".toList 12 scale = .ok size ∧
        calls = [.text x y shape.value color size] := by
  by_cases empty : shape.value = []
  · simp only [textCalls, empty, List.isEmpty_nil, if_true, Result.pure_ok] at drawn
    exact .inl ⟨empty, drawn.symm⟩
  · have shown : shape.value.isEmpty = false := by simp [empty]
    simp only [textCalls, textCall, shown, Bool.false_eq_true, if_false, Result.bind_ok,
      Result.pure_ok] at drawn
    obtain ⟨size, measured, _, ⟨ink, -, width, -, height, -, left, -, boxWidth, -, start, -, top, -,
      boxHeight, -, space, -, half, -, middle, -, inkLeft, -, x, -, inkTop, -, y, -, rfl⟩,
      equal⟩ := drawn
    exact .inr ⟨x, y, _, size, empty, measured, equal.symm⟩

theorem span_ok {start stop : Number × Number} {box : Span} :
    span start stop = .ok box ↔
      start.1.toDouble = .ok box.x0 ∧ start.2.toDouble = .ok box.y0 ∧
        stop.1.toDouble = .ok box.x1 ∧ stop.2.toDouble = .ok box.y1 := by
  simp only [span, Result.bind_ok, Result.pure_ok]
  constructor
  · rintro ⟨x0, left, y0, top, x1, right, y1, bottom, rfl⟩
    exact ⟨left, top, right, bottom⟩
  · rintro ⟨left, top, right, bottom⟩
    exact ⟨_, left, _, top, _, right, _, bottom, rfl⟩

/-- A box is drawn from its corner to the sums of its corner and its sides. -/
theorem boxCalls_ok {style : StyleTable} {width : Int}
    (drawn : boxCalls shape style width (.double 1) = .ok calls) :
    ∃ box right bottom, shape.x.toDouble = .ok box.x0 ∧ shape.y.toDouble = .ok box.y0 ∧
      shape.x.add shape.width = .ok right ∧ right.toDouble = .ok box.x1 ∧
      shape.y.add shape.height = .ok bottom ∧ bottom.toDouble = .ok box.y1 ∧
      calls = [if style.contains "ellipse".toList then
        .ellipse box (style.color? "fillColor".toList) (style.color? "strokeColor".toList) width
      else
        .rectangle box (style.color? "fillColor".toList) (style.color? "strokeColor".toList)
          width] := by
  simp only [boxCalls, Result.bind_ok, Number.mul_one_ok] at drawn
  obtain ⟨_, ⟨x0, left, rfl⟩, _, ⟨y0, top, rfl⟩, right, across, _, ⟨x1, rightDouble, rfl⟩, bottom,
    down, _, ⟨y1, bottomDouble, rfl⟩, box, corners, equal⟩ := drawn
  obtain ⟨rfl, rfl, rfl, rfl⟩ : x0 = box.x0 ∧ y0 = box.y0 ∧ x1 = box.x1 ∧ y1 = box.y1 := by
    simpa only [span_ok, Number.toDouble_double, Except.ok.injEq] using corners
  refine ⟨box, right, bottom, left, top, across, rightDouble, down, bottomDouble, ?_⟩
  split at equal <;> rename_i shown
  · rw [if_pos shown, ← Result.pure_ok.1 equal]
  · rw [if_neg shown, ← Result.pure_ok.1 equal]

/-- The first dash starts where the line does. -/
theorem intervals_first {limit dash gap : Binary64} {intervals : List (Binary64 × Binary64)}
    (positive : Binary64.lt 0 limit = true)
    (divided : Dash.intervals? limit dash gap 0 = some intervals) :
    ∃ stop rest, intervals = (0, stop) :: rest := by
  rw [Dash.intervals?, if_pos positive] at divided
  dsimp only at divided
  split at divided
  · split at divided
    · obtain ⟨rest, -, rfl⟩ := Option.map_eq_some_iff.1 divided
      exact ⟨_, rest, rfl⟩
    · cases divided
  · cases divided
    exact ⟨_, [], rfl⟩

/-- The dashes and the gaps of a line are as long as six and four at the scale. -/
theorem DashedLine.between_ok {start stop : Number × Number} {line : DashedLine} :
    DashedLine.between start stop scale = .ok line ↔
      (∃ product, Number.mul (.double 6) scale = .ok product ∧
        product.toDouble = .ok line.loop.dash) ∧
      (∃ product, Number.mul (.double 4) scale = .ok product ∧
        product.toDouble = .ok line.loop.gap) ∧
      (∃ step, stop.1.sub start.1 = .ok step ∧ step.toDouble = .ok line.across) ∧
      (∃ step, stop.2.sub start.2 = .ok step ∧ step.toDouble = .ok line.down) ∧
      line.start = start ∧ line.loop.limit = Binary64.length line.across line.down := by
  simp only [between, Result.bind_ok, Result.pure_ok]
  constructor
  · rintro ⟨_, dashScaled, dash, dashDouble, _, gapScaled, gap, gapDouble, _, acrossStep, across,
      acrossDouble, _, downStep, down, downDouble, rfl⟩
    exact ⟨⟨_, dashScaled, dashDouble⟩, ⟨_, gapScaled, gapDouble⟩, ⟨_, acrossStep, acrossDouble⟩,
      ⟨_, downStep, downDouble⟩, rfl, rfl⟩
  · obtain ⟨_, across, down, limit, dash, gap⟩ := line
    rintro ⟨⟨_, dashScaled, dashDouble⟩, ⟨_, gapScaled, gapDouble⟩, ⟨_, acrossStep, acrossDouble⟩,
      ⟨_, downStep, downDouble⟩, rfl, (length : limit = Binary64.length across down)⟩
    subst length
    exact ⟨_, dashScaled, dash, dashDouble, _, gapScaled, gap, gapDouble, _, acrossStep, across,
      acrossDouble, _, downStep, down, downDouble, rfl⟩

/-- A line has no dashes without a length, and otherwise one for each of its intervals. -/
theorem DashedLine.dashes_ok {line : DashedLine} {color : Text} {width : Int}
    {attempts : List (Except Fault DrawingCall)} :
    line.dashes color width = .ok attempts ↔
      (line.loop.limit.eq 0 = true ∧ attempts = []) ∨
        ∃ intervals, ¬line.loop.limit.eq 0 = true ∧ line.loop.intervals? 0 = some intervals ∧
          attempts = intervals.map (line.dash color width) := by
  rw [dashes]
  split_ifs with flat
  · simp only [Result.pure_ok, flat, true_and, not_true_eq_false, false_and, exists_false, or_false,
      eq_comm (b := attempts)]
  · cases line.loop.intervals? 0 with
    | none => simp [Result.bind_ok, flat, throw, throwThe, MonadExceptOf.throw]
    | some intervals => simp [Result.pure_ok, flat, eq_comm (b := attempts)]

namespace DashedLine

variable {x y : Binary64} (line : DashedLine) (xDouble : line.start.1.toDouble = .ok x)
  (yDouble : line.start.2.toDouble = .ok y)
include xDouble yDouble

/-- A line whose start is in floating point numbers passes through such points only. -/
theorem place_double (position : Binary64) :
    line.place position = .ok (.double (x + line.across / line.loop.limit * position),
      .double (y + line.down / line.loop.limit * position)) := by
  rw [place, Number.add_double xDouble, Number.add_double yDouble]
  rfl

theorem dash_drawn (color : Text) (width : Int) :
    line.dash color width = fun (first, last) =>
      .ok (.line ⟨x + line.across / line.loop.limit * first,
        y + line.down / line.loop.limit * first, x + line.across / line.loop.limit * last,
        y + line.down / line.loop.limit * last⟩ color width) := by
  funext interval
  rw [dash, line.place_double xDouble yDouble, line.place_double xDouble yDouble]
  rfl

end DashedLine

theorem dashedCalls_made {start stop : Number × Number} {color : Text} {width : Int} :
    dashedCalls start stop color width scale = .ok calls ↔
      ∃ line, DashedLine.between start stop scale = .ok line ∧
        ((line.loop.limit.eq 0 = true ∧ calls = []) ∨
          ∃ intervals, ¬line.loop.limit.eq 0 = true ∧ line.loop.intervals? 0 = some intervals ∧
            intervals.mapM (line.dash color width) = .ok calls) := by
  simp only [dashedCalls, Result.bind_ok, DashedLine.dashes_ok]
  refine exists_congr fun line => and_congr_right fun _ => ?_
  constructor
  · rintro ⟨attempts, ⟨flat, rfl⟩ | ⟨intervals, long, divided, rfl⟩, drawn⟩
    · exact .inl ⟨flat, (Result.pure_ok.1 drawn).symm⟩
    · rw [List.mapM_map] at drawn
      exact .inr ⟨intervals, long, divided, drawn⟩
  · rintro (⟨flat, rfl⟩ | ⟨intervals, long, divided, drawn⟩)
    · exact ⟨[], .inl ⟨flat, rfl⟩, rfl⟩
    · refine ⟨_, .inr ⟨intervals, long, divided, rfl⟩, ?_⟩
      rw [List.mapM_map]
      exact drawn

/-- The dashes of a line lie along it, from its start on. -/
theorem dashedCalls_ok {x y x' y' : Binary64} {color : Text} {width : Int}
    (drawn : dashedCalls (.double x, .double y) (.double x', .double y') color width (.double 1) =
      .ok calls) :
    let length := Binary64.length (x' - x) (y' - y)
    (length.eq 0 = true ∧ calls = []) ∨
      ∃ dash gap intervals, ¬length.eq 0 = true ∧
        Dash.intervals? length dash gap 0 = some intervals ∧
        calls = intervals.map fun (first, last) =>
          .line ⟨x + (x' - x) / length * first, y + (y' - y) / length * first,
            x + (x' - x) / length * last, y + (y' - y) / length * last⟩ color width := by
  intro length
  obtain ⟨⟨_, across, down, limit, dash, gap⟩, between, drawn⟩ := dashedCalls_made.1 drawn
  obtain ⟨-, -, ⟨_, acrossStep, acrossDouble⟩, ⟨_, downStep, downDouble⟩, rfl,
    (limited : limit = Binary64.length across down)⟩ := DashedLine.between_ok.1 between
  cases acrossStep
  cases acrossDouble
  cases downStep
  cases downDouble
  subst limited
  rcases drawn with ⟨flat, empty⟩ | ⟨intervals, long, divided, placed⟩
  · exact .inl ⟨flat, empty⟩
  · refine .inr ⟨dash, gap, intervals, long, divided, ?_⟩
    rw [DashedLine.dash_drawn _ rfl rfl] at placed
    exact (Except.ok.inj (List.mapM_pure.symm.trans placed)).symm

/-- A dashed edge is drawn between its ends, in the colour of its style or in black. -/
theorem edgeCalls_dashed {style : StyleTable} {width : Int}
    (dashed : style.find? "dashed".toList = some ['1'])
    (drawn : edgeCalls shape style width (.double 1) = .ok calls) :
    ∃ x y x' y', shape.x.toDouble = .ok x ∧ shape.y.toDouble = .ok y ∧
      shape.width.toDouble = .ok x' ∧ shape.height.toDouble = .ok y' ∧
      dashedCalls (.double x, .double y) (.double x', .double y')
        ((style.color? "strokeColor".toList).getD black) width (.double 1) = .ok calls := by
  simp only [edgeCalls, Result.bind_ok, Number.mul_one_ok, dashed, if_true] at drawn
  obtain ⟨_, ⟨x, left, rfl⟩, _, ⟨y, top, rfl⟩, _, ⟨x', right, rfl⟩, _, ⟨y', bottom, rfl⟩,
    dashes⟩ := drawn
  exact ⟨x, y, x', y', left, top, right, bottom, dashes⟩

/-- A line along an axis is drawn from its start on, unless it has no length. -/
theorem dashedCalls_axis {x y x' y' : Binary64} {color : Text} {width : Int} {across down : Nat}
    (acrossAmount : (x' - x).IsAmount across) (downAmount : (y' - y).IsAmount down)
    (axis : across = 0 ∨ down = 0)
    (drawn : dashedCalls (.double x, .double y) (.double x', .double y') color width (.double 1) =
      .ok calls) :
    (across = 0 ∧ down = 0 ∧ calls = []) ∨
      ∃ first rest, 0 < across + down ∧ calls = .line first color width :: rest ∧
        (∀ call ∈ rest, ∃ span, call = .line span color width) ∧
        Binary64.Same first.x0 x ∧ Binary64.Same first.y0 y := by
  have measured : ∃ representable,
      Binary64.length (x' - x) (y' - y) = .finite false (across + down) representable := by
    rcases axis with rfl | rfl
    · rw [Nat.zero_add]
      exact Binary64.length_down acrossAmount downAmount
    · exact Binary64.length_across acrossAmount downAmount
  obtain ⟨representable, length⟩ := measured
  obtain ⟨zeroFits, zero⟩ := Binary64.zero_finite
  rcases dashedCalls_ok drawn with ⟨none, empty⟩ | ⟨dash, gap, intervals, some, divided, rfl⟩
  · rw [length, zero] at none
    have total : across + down = 0 := by
      simp [Binary64.eq, Binary64.le, Binary64.lt, Binary64.isNan, Binary64.signedUnits] at none
      omega
    exact .inl ⟨by omega, by omega, empty⟩
  · rw [length] at some divided ⊢
    have positive : 0 < across + down := by
      refine Nat.pos_of_ne_zero fun total => some ?_
      simp [zero, Binary64.eq, Binary64.le, Binary64.lt, Binary64.isNan, Binary64.signedUnits,
        total]
    have advances : Binary64.lt 0 (.finite false (across + down) representable) = true := by
      simp [zero, Binary64.lt, Binary64.signedUnits]
      omega
    obtain ⟨stop, rest, rfl⟩ := intervals_first advances divided
    obtain ⟨_, _, acrossZero⟩ :=
      acrossAmount.direction_zero (Nat.le_add_right _ _) positive representable
    obtain ⟨_, _, downZero⟩ :=
      downAmount.direction_zero (Nat.le_add_left _ _) positive representable
    refine .inr ⟨_, _, positive, rfl, fun call member => ?_, ?_, ?_⟩
    · obtain ⟨interval, -, rfl⟩ := List.mem_map.1 member
      exact ⟨_, rfl⟩
    · rw [acrossZero]
      exact Binary64.add_zero_same x _ _
    · rw [downZero]
      exact Binary64.add_zero_same y _ _

end Shapes

end Preview

end QuadrantChart
