/-
This file proves that a drawing is endless only for the loop of a dashed line.
-/

import QuadrantChart.Proofs.Preview.DashReach
import QuadrantChart.Proofs.Preview.Dividers

namespace QuadrantChart

/-- A result that is not the fault of endless dashes. -/
structure Result.Terminates {Value : Type} (result : Except Fault Value) : Prop where
  ended : result ≠ .error .unending

namespace Result

variable {First Second : Type}

theorem terminates_ok (value : First) : Terminates (.ok value) :=
  ⟨nofun⟩

theorem terminates_error {fault : Fault} (other : fault ≠ .unending) :
    Terminates (.error fault : Except Fault First) :=
  ⟨fun endless => other (Except.error.inj endless)⟩

theorem Terminates.bind_of {first : Except Fault First} {next : First → Except Fault Second}
    (firstTerminates : Terminates first)
    (nextTerminates : ∀ value, first = .ok value → Terminates (next value)) :
    Terminates (first >>= next) := by
  cases first with
  | ok value => exact nextTerminates value rfl
  | error fault =>
    exact terminates_error fun endless => firstTerminates.ended (congrArg Except.error endless)

theorem Terminates.bind {first : Except Fault First} {next : First → Except Fault Second}
    (firstTerminates : Terminates first) (nextTerminates : ∀ value, Terminates (next value)) :
    Terminates (first >>= next) :=
  firstTerminates.bind_of fun value _ => nextTerminates value

theorem Terminates.map {first : Except Fault First} (firstTerminates : Terminates first)
    (step : First → Second) : Terminates (first.map step) := by
  cases first with
  | ok value => exact terminates_ok _
  | error fault =>
    exact terminates_error fun endless => firstTerminates.ended (congrArg Except.error endless)

theorem terminates_mapM {step : First → Except Fault Second}
    (each : ∀ value, Terminates (step value)) (values : List First) :
    Terminates (values.mapM step) := by
  induction values with
  | nil => exact terminates_ok []
  | cons value values inductionHypothesis =>
    rw [List.mapM_cons]
    exact (each value).bind fun _ => inductionHypothesis.bind fun _ => terminates_ok _

end Result

open Result (Terminates terminates_ok terminates_error terminates_mapM)

namespace Number

theorem requireFinite_terminates {fault : Fault} (other : fault ≠ .unending) (value : Binary64) :
    Terminates (requireFinite fault value) := by
  cases value with
  | finite negative units representable => exact terminates_ok _
  | _ => exact terminates_error other

theorem toDouble_terminates (number : Number) : Terminates number.toDouble := by
  cases number with
  | integer value => exact requireFinite_terminates (by decide) _
  | double value => exact terminates_ok _

theorem combine_terminates (exact : Int → Int → Int) (rounded : Binary64 → Binary64 → Binary64)
    (left right : Number) : Terminates (combine exact rounded left right) := by
  have mixed : Terminates (do return .double (rounded (← left.toDouble) (← right.toDouble)) :
      Except Fault Number) :=
    .bind left.toDouble_terminates fun _ => .bind right.toDouble_terminates fun _ => terminates_ok _
  cases left with
  | double first => cases right <;> exact mixed
  | integer first =>
    cases right with
    | double second => exact mixed
    | integer second => exact terminates_ok _

theorem add_terminates (left right : Number) : Terminates (left.add right) :=
  combine_terminates ..

theorem sub_terminates (left right : Number) : Terminates (left.sub right) :=
  combine_terminates ..

theorem mul_terminates (left right : Number) : Terminates (left.mul right) :=
  combine_terminates ..

theorem half_terminates (number : Number) : Terminates number.half := by
  cases number with
  | double value => exact terminates_ok _
  | integer value =>
    exact (requireFinite_terminates (by decide) _).map _

theorem round_terminates (number : Number) : Terminates number.round := by
  cases number with
  | integer value => exact terminates_ok _
  | double value =>
    cases value with
    | finite negative units representable => exact terminates_ok _
    | _ => exact terminates_error (by decide)

end Number

open Number (add_terminates sub_terminates mul_terminates half_terminates round_terminates
  toDouble_terminates)

namespace Preview

theorem measure_terminates (style : StyleTable) (key : Text) (missing : Binary64) (scale : Number) :
    Terminates (measure style key missing scale) := by
  have rounded (value : Binary64) :
      Terminates (do return max 1 (← (← Number.mul (.double value) scale).round) :
        Except Fault Int) :=
    .bind (mul_terminates ..) fun _ => .bind (round_terminates _) fun _ =>
      terminates_ok _
  unfold measure
  split
  · exact rounded _
  · split
    · exact rounded _
    · exact terminates_error nofun

theorem span_terminates (start stop : Number × Number) : Terminates (span start stop) :=
  .bind (toDouble_terminates _) fun _ => .bind (toDouble_terminates _) fun _ =>
    .bind (toDouble_terminates _) fun _ => .bind (toDouble_terminates _) fun _ =>
      terminates_ok _

theorem ofText_terminates (size : Int) (text : Text) : Terminates (InkBox.ofText size text) :=
  .bind (mul_terminates ..) fun _ => .bind (mul_terminates ..) fun _ =>
    .bind (add_terminates ..) fun _ => .bind (mul_terminates ..) fun _ =>
      .bind (add_terminates ..) fun _ => terminates_ok _

theorem alignedStart_terminates (style : StyleTable) (start width textWidth : Number) :
    Terminates (alignedStart style start width textWidth) := by
  have centred : Terminates (alignedStart.centred start width textWidth) :=
    .bind (sub_terminates ..) fun _ => .bind (half_terminates _) fun _ => add_terminates ..
  unfold alignedStart
  split
  · split_ifs
    · exact terminates_ok _
    · exact .bind (add_terminates ..) fun _ => sub_terminates ..
    · exact centred
  · exact centred

variable (shape : Shape) (style : StyleTable) (width : Int) (scale : Number)

theorem textCall_terminates (size : Int) : Terminates (textCall shape style scale size) :=
  .bind (ofText_terminates ..) fun _ =>
    .bind (sub_terminates ..) fun _ => .bind (sub_terminates ..) fun _ =>
    .bind (mul_terminates ..) fun _ => .bind (mul_terminates ..) fun _ =>
    .bind (alignedStart_terminates ..) fun _ => .bind (mul_terminates ..) fun _ =>
    .bind (mul_terminates ..) fun _ => .bind (sub_terminates ..) fun _ =>
    .bind (half_terminates _) fun _ => .bind (add_terminates ..) fun _ =>
    .bind (sub_terminates ..) fun _ => .bind (toDouble_terminates _) fun _ =>
    .bind (sub_terminates ..) fun _ => .bind (toDouble_terminates _) fun _ =>
    terminates_ok _

theorem textCalls_terminates : Terminates (textCalls shape style scale) := by
  unfold textCalls
  split_ifs
  · exact terminates_ok _
  · exact .bind (measure_terminates ..) fun size =>
      .bind (textCall_terminates shape style scale size) fun _ => terminates_ok _

theorem boxCalls_terminates : Terminates (boxCalls shape style width scale) := by
  refine .bind (mul_terminates ..) fun _ => .bind (mul_terminates ..) fun _ =>
    .bind (add_terminates ..) fun _ => .bind (mul_terminates ..) fun _ =>
    .bind (add_terminates ..) fun _ => .bind (mul_terminates ..) fun _ =>
    .bind (span_terminates ..) fun _ => ?_
  split_ifs <;> exact terminates_ok _

section Line

variable {width scale} {start stop : Number × Number} {color : Text}

theorem DashedLine.between_terminates : Terminates (DashedLine.between start stop scale) :=
  .bind (mul_terminates ..) fun _ => .bind (toDouble_terminates _) fun _ =>
    .bind (mul_terminates ..) fun _ => .bind (toDouble_terminates _) fun _ =>
    .bind (sub_terminates ..) fun _ => .bind (toDouble_terminates _) fun _ =>
    .bind (sub_terminates ..) fun _ => .bind (toDouble_terminates _) fun _ => terminates_ok _

theorem DashedLine.dash_terminates (line : DashedLine) (interval : Binary64 × Binary64) :
    Terminates (line.dash color width interval) := by
  have place (position : Binary64) : Terminates (line.place position) :=
    .bind (add_terminates ..) fun _ => .bind (add_terminates ..) fun _ => terminates_ok _
  exact (place interval.1).bind fun _ => (place interval.2).bind fun _ =>
    (span_terminates ..).bind fun _ => terminates_ok _

/-- A dashed line is endless only when its loop is. -/
theorem dashedCalls_terminates
    (ends : ∀ line, DashedLine.between start stop scale = .ok line →
      line.loop.intervals? 0 ≠ none) :
    Terminates (dashedCalls start stop color width scale) := by
  refine .bind_of DashedLine.between_terminates fun line between => ?_
  have drawn (intervals : List (Binary64 × Binary64)) :
      Terminates ((intervals.map (line.dash color width)).mapM id) := by
    rw [List.mapM_map]
    exact terminates_mapM line.dash_terminates intervals
  unfold DashedLine.dashes
  split_ifs
  · exact terminates_ok _
  · cases divided : line.loop.intervals? 0 with
    | none => exact absurd divided (ends line between)
    | some intervals => exact drawn intervals

/-- A dashed line is drawn when its loop ends, or when it has no length. -/
theorem dashedCalls_loop {calls : List DrawingCall}
    (drawn : dashedCalls start stop color width scale = .ok calls) :
    ∃ line, DashedLine.between start stop scale = .ok line ∧
      (line.loop.limit.eq 0 = true ∨ line.loop.intervals? 0 ≠ none) := by
  obtain ⟨line, between, ⟨flat, -⟩ | ⟨intervals, -, divided, -⟩⟩ := dashedCalls_made.1 drawn
  · exact ⟨line, between, .inl flat⟩
  · exact ⟨line, between, .inr (Option.ne_none_iff_exists'.2 ⟨intervals, divided⟩)⟩

end Line

end Preview

/-- The loop that draws an edge in dashes. -/
def Shape.dashLoop (shape : Shape) (scale : Number) : Except Fault Dash.Loop := do
  let start := (← shape.x.mul scale, ← shape.y.mul scale)
  let stop := (← shape.width.mul scale, ← shape.height.mul scale)
  return (← Preview.DashedLine.between start stop scale).loop

theorem Shape.dashLoop_ok {shape : Shape} {scale : Number} {loop : Dash.Loop} :
    shape.dashLoop scale = .ok loop ↔
      ∃ startX, shape.x.mul scale = .ok startX ∧ ∃ startY, shape.y.mul scale = .ok startY ∧
        ∃ stopX, shape.width.mul scale = .ok stopX ∧ ∃ stopY, shape.height.mul scale = .ok stopY ∧
          ∃ line, Preview.DashedLine.between (startX, startY) (stopX, stopY) scale = .ok line ∧
            line.loop = loop := by
  simp only [Shape.dashLoop, Result.bind_ok, Result.pure_ok]

namespace Preview

variable {shape : Shape} {style : StyleTable} {width : Int} {scale : Number}
  {calls : List DrawingCall}

theorem edgeCalls_terminates
    (ends : ∀ loop, shape.dashLoop scale = .ok loop → loop.intervals? 0 ≠ none) :
    Terminates (edgeCalls shape style width scale) := by
  refine .bind_of (mul_terminates ..) fun startX xScaled =>
    .bind_of (mul_terminates ..) fun startY yScaled =>
    .bind_of (mul_terminates ..) fun stopX widthScaled =>
    .bind_of (mul_terminates ..) fun stopY heightScaled => ?_
  dsimp only
  split_ifs
  · exact dashedCalls_terminates fun line between => ends line.loop (Shape.dashLoop_ok.2
      ⟨_, xScaled, _, yScaled, _, widthScaled, _, heightScaled, line, between, rfl⟩)
  · exact (span_terminates ..).bind fun _ => terminates_ok _

theorem edgeCalls_loop (dashed : style.find? "dashed".toList = some ['1'])
    (drawn : edgeCalls shape style width scale = .ok calls) :
    ∃ loop, shape.dashLoop scale = .ok loop ∧
      (loop.limit.eq 0 = true ∨ loop.intervals? 0 ≠ none) := by
  simp only [edgeCalls, Result.bind_ok, dashed, if_true] at drawn
  obtain ⟨startX, xScaled, startY, yScaled, stopX, widthScaled, stopY, heightScaled, drawn⟩ := drawn
  obtain ⟨line, between, ends⟩ := dashedCalls_loop drawn
  exact ⟨line.loop, Shape.dashLoop_ok.2
    ⟨_, xScaled, _, yScaled, _, widthScaled, _, heightScaled, line, between, rfl⟩, ends⟩

theorem append_terminates {first second : Drawing} (firstEnds : first.fault ≠ some .unending)
    (secondEnds : second.fault ≠ some .unending) : (first ++ second).fault ≠ some .unending := by
  by_cases done : first.fault = none
  · rw [Drawing.append_none done]
    exact secondEnds
  · rw [Drawing.append_some done]
    exact firstEnds

/-- A shape is endless only when it is an edge whose loop is. -/
theorem drawShape_terminates (ends : shape.isEdge = true →
    ∀ loop, shape.dashLoop scale = .ok loop → loop.intervals? 0 ≠ none) :
    (drawShape scale shape).fault ≠ some .unending := by
  have lifted {result : Except Fault (List DrawingCall)} (terminates : Terminates result) :
      (Drawing.ofCalls result).fault ≠ some .unending := by
    cases result with
    | ok calls => exact nofun
    | error fault =>
      exact fun endless => terminates.ended (congrArg Except.error (Option.some.inj endless))
  unfold drawShape
  extract_lets style text
  have measured := measure_terminates style "strokeWidth".toList 1 scale
  cases found : measure style "strokeWidth".toList 1 scale with
  | error fault =>
    rw [found] at measured
    exact fun endless => measured.ended (congrArg Except.error (Option.some.inj endless))
  | ok width =>
    dsimp only
    split_ifs with isEdge
    · exact lifted (edgeCalls_terminates (ends isEdge))
    · exact lifted (textCalls_terminates ..)
    · exact append_terminates (lifted (boxCalls_terminates ..)) (lifted (textCalls_terminates ..))

theorem pageSide_terminates (config : LayoutConfig) (scale : Number) :
    Terminates (pageSide config scale) := by
  have sized : Terminates (do
      return max 1 (← (← (← config.totalSize).mul scale).round) : Except Fault Int) :=
    .bind (.bind (mul_terminates ..) fun _ => add_terminates ..) fun _ =>
      .bind (mul_terminates ..) fun _ => .bind (round_terminates _) fun _ => terminates_ok _
  unfold pageSide
  split_ifs
  · exact terminates_error nofun
  · exact sized

/-- A drawing is endless only when one of its shapes is. -/
theorem drawShapes_terminates {shapes : List Shape}
    (each : ∀ shape ∈ shapes, (drawShape scale shape).fault ≠ some .unending) :
    (drawShapes scale shapes).fault ≠ some .unending := by
  induction shapes with
  | nil => exact nofun
  | cons shape shapes inductionHypothesis =>
    obtain ⟨first, others⟩ := List.forall_mem_cons.1 each
    exact append_terminates first (inductionHypothesis others)

end Preview

end QuadrantChart
