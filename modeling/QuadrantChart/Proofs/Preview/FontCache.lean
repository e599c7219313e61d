/-
This file draws shapes step by step with fonts that are kept once they are loaded, and proves that
these steps make the drawing of the shapes.
-/

import QuadrantChart.Proofs.Preview.Drawing
import QuadrantChart.Proofs.Preview.Measured

namespace QuadrantChart

namespace Drawing

variable {α : Type}

/-- Why a drawing does not come to its end, if it does not. -/
def result (drawing : Drawing) : Except Fault Unit :=
  match drawing.fault with
  | none => .ok ()
  | some fault => .error fault

/-- What is drawn for a value, if there is one. -/
def after (value : Except Fault α) (next : α → Drawing) : Drawing :=
  match value with
  | .ok value => next value
  | .error fault => { fault := some fault }

theorem ofCalls_bind (value : Except Fault α) (next : α → Except Fault (List DrawingCall)) :
    ofCalls (value >>= next) = after value fun value => ofCalls (next value) := by
  cases value <;> rfl

theorem ofCalls_append (early : Except Fault (List DrawingCall)) (late : Drawing) :
    ofCalls early ++ late = after early fun calls => { calls } ++ late := by
  cases early <;> rfl

end Drawing

namespace Preview

structure Font where
  size : Int
  deriving DecidableEq

/-- The fonts loaded so far by their sizes, and the calls made so far. -/
structure Easel where
  fonts : List (Int × Font) := []
  calls : List DrawingCall := []
  deriving DecidableEq

/-- A step may load fonts and make calls, also when it fails in the end. -/
abbrev Step :=
  EStateM Fault Easel

namespace Step

variable {α : Type}

def ofResult : Except Fault α → Step α
  | .ok value => pure value
  | .error fault => throw fault

def draw (call : DrawingCall) : Step Unit :=
  modify fun easel => { easel with calls := easel.calls ++ [call] }

/-- A font is loaded the first time that its size is asked for. -/
def font (size : Int) : Step Font := do
  match (← get).fonts.lookup size with
  | some font => return font
  | none =>
    let font := Font.mk size
    modify fun easel => { easel with fonts := (size, font) :: easel.fonts }
    return font

def text (shape : Shape) (style : StyleTable) (scale : Number) : Step Unit := do
  if shape.value.isEmpty then return ()
  let font ← font (← ofResult (measure style "fontSize".toList 12 scale))
  draw (← ofResult (textCall shape style scale font.size))

/-- Each call is made before the next one is computed. -/
def each (attempts : List (Except Fault DrawingCall)) : Step Unit :=
  attempts.forM fun attempt => do draw (← ofResult attempt)

def edge (shape : Shape) (style : StyleTable) (width : Int) (scale : Number) : Step Unit := do
  let start := (← ofResult (shape.x.mul scale), ← ofResult (shape.y.mul scale))
  let stop := (← ofResult (shape.width.mul scale), ← ofResult (shape.height.mul scale))
  let color := (style.color? "strokeColor".toList).getD black
  if style.find? "dashed".toList = some ['1'] then
    let line ← ofResult (DashedLine.between start stop scale)
    each (← ofResult (line.dashes color width))
  else draw (.line (← ofResult (span start stop)) color width)

def shape (scale : Number) (shape : Shape) : Step Unit := do
  let style := StyleTable.ofStyle shape.style
  let width ← ofResult (measure style "strokeWidth".toList 1 scale)
  if shape.isEdge then edge shape style width scale
  else if style.contains "text".toList then text shape style scale
  else
    (← ofResult (boxCalls shape style width scale)).forM draw
    text shape style scale

/-- All shapes share the fonts that are loaded for them. -/
def shapes (scale : Number) (shapes : List Shape) : Step Unit :=
  shapes.forM (shape scale)

end Step

/-- Every font is kept under its own size. -/
def Easel.Genuine (easel : Easel) : Prop :=
  ∀ size font, easel.fonts.lookup size = some font → font = ⟨size⟩

namespace Step

variable {α β : Type} {fault : Fault} {value : α} {calls later : List DrawingCall}

def ending (easel : Easel) : Except Fault α → EStateM.Result Fault Easel α
  | .ok value => .ok value easel
  | .error fault => .error fault easel

/-- A step makes its calls and has its result whatever fonts have been loaded and whatever calls
have been made before. -/
def Draws (step : Step α) (calls : List DrawingCall) (result : Except Fault α) : Prop :=
  ∀ easel : Easel, easel.Genuine → ∃ next : Easel, next.Genuine ∧
    next.calls = easel.calls ++ calls ∧ step easel = ending next result

theorem draws_ofResult (result : Except Fault α) : (ofResult result).Draws [] result := by
  intro easel genuine
  refine ⟨easel, genuine, (List.append_nil _).symm, ?_⟩
  cases result <;> rfl

/-- A font is the same whether it is loaded or found. -/
theorem draws_font (size : Int) : (font size).Draws [] (.ok ⟨size⟩) := by
  intro easel genuine
  have searched : font size easel = (match easel.fonts.lookup size with
      | some font => pure font
      | none => do
        modify fun easel => { easel with fonts := (size, ⟨size⟩) :: easel.fonts }
        return ⟨size⟩ : Step Font) easel := rfl
  rw [searched]
  cases found : easel.fonts.lookup size with
  | some font =>
    refine ⟨easel, genuine, (List.append_nil _).symm, ?_⟩
    rw [genuine size font found]
    rfl
  | none =>
    refine ⟨{ easel with fonts := (size, ⟨size⟩) :: easel.fonts }, fun other font kept => ?_,
      (List.append_nil _).symm, rfl⟩
    by_cases same : other = size
    · subst same
      rw [List.lookup_cons_self] at kept
      cases kept
      rfl
    · rw [List.lookup_cons, beq_false_of_ne same] at kept
      exact genuine other font kept

theorem Draws.bind {step : Step α} {next : α → Step β} {result : Except Fault β}
    (first : step.Draws calls (.ok value)) (second : (next value).Draws later result) :
    (step >>= next).Draws (calls ++ later) result := by
  intro easel genuine
  obtain ⟨middle, middleGenuine, middleCalls, ran⟩ := first easel genuine
  obtain ⟨last, lastGenuine, lastCalls, ends⟩ := second middle middleGenuine
  refine ⟨last, lastGenuine, ?_, ?_⟩
  · rw [lastCalls, middleCalls, List.append_assoc]
  · change EStateM.bind step next easel = _
    rw [EStateM.bind, ran]
    exact ends

theorem Draws.bind_error {step : Step α} {next : α → Step β}
    (first : step.Draws calls (.error fault)) : (step >>= next).Draws calls (.error fault) := by
  intro easel genuine
  obtain ⟨last, lastGenuine, lastCalls, ran⟩ := first easel genuine
  refine ⟨last, lastGenuine, lastCalls, ?_⟩
  change EStateM.bind step next easel = _
  rw [EStateM.bind, ran]
  rfl

/-- A step draws a drawing, up to the fault if there is one. -/
def Makes (step : Step Unit) (drawing : Drawing) : Prop :=
  step.Draws drawing.calls drawing.result

theorem makes_pure : Makes (pure ()) {} :=
  draws_ofResult (.ok ())

theorem makes_draw (call : DrawingCall) : Makes (draw call) { calls := [call] } :=
  fun easel genuine => ⟨{ easel with calls := easel.calls ++ [call] }, genuine, rfl, rfl⟩

theorem Makes.append {first second : Step Unit} {early late : Drawing}
    (firstMakes : first.Makes early) (secondMakes : second.Makes late) :
    Makes (first >>= fun _ => second) (early ++ late) := by
  obtain ⟨calls, fault⟩ := early
  cases fault with
  | none => exact Draws.bind firstMakes secondMakes
  | some fault => exact Draws.bind_error firstMakes

theorem makes_after {result : Except Fault α} {next : α → Step Unit} {drawing : α → Drawing}
    (eachMakes : ∀ value, (next value).Makes (drawing value)) :
    Makes (ofResult result >>= next) (.after result drawing) := by
  have computed := draws_ofResult result
  cases result with
  | ok value => exact Draws.bind computed (eachMakes value)
  | error fault => exact computed.bind_error

theorem makes_font {size : Int} {next : Font → Step Unit} {drawing : Drawing}
    (nextMakes : (next ⟨size⟩).Makes drawing) : Makes (font size >>= next) drawing :=
  Draws.bind (draws_font size) nextMakes

/-- Calls that are all computed before are drawn one after another. -/
theorem makes_calls (calls : List DrawingCall) : Makes (calls.forM draw) { calls } := by
  induction calls with
  | nil => exact makes_pure
  | cons call calls inductionHypothesis => exact Makes.append (makes_draw call) inductionHypothesis

section Shape

variable (shape : Shape) (style : StyleTable) (scale : Number)

theorem text_makes : (text shape style scale).Makes (.ofCalls (textCalls shape style scale)) := by
  by_cases empty : shape.value.isEmpty = true
  · rw [text, textCalls, if_pos empty, if_pos empty]
    exact makes_pure
  · rw [text, textCalls, if_neg empty, if_neg empty, Drawing.ofCalls_bind]
    refine makes_after fun size => makes_font ?_
    rw [Drawing.ofCalls_bind]
    exact makes_after makes_draw

end Shape

/-- All attempts succeed, or all of them fail alike. -/
inductive Alike : List (Except Fault DrawingCall) → Prop
  | made (calls : List DrawingCall) : Alike (calls.map .ok)
  | failed {attempts : List (Except Fault DrawingCall)} (fault : Fault)
    (same : ∀ attempt ∈ attempts, attempt = .error fault) : Alike attempts

/-- The place of a dash fails only where the line starts. -/
theorem dashes_alike {line : DashedLine} {color : Text} {width : Int}
    {attempts : List (Except Fault DrawingCall)}
    (made : line.dashes color width = .ok attempts) : Alike attempts := by
  obtain ⟨-, rfl⟩ | ⟨intervals, -, -, rfl⟩ := DashedLine.dashes_ok.1 made
  · exact .made []
  have failed (fault : Fault) (unplaced : ∀ position, line.place position = .error fault) :
      Alike (intervals.map (line.dash color width)) := by
    refine .failed fault ?_
    simp only [List.forall_mem_map, DashedLine.dash, unplaced]
    exact fun _ _ => rfl
  cases left : line.start.1.toDouble with
  | error fault =>
    refine failed fault fun position => ?_
    rw [DashedLine.place, Number.add_unconvertible left]
    rfl
  | ok x =>
    cases top : line.start.2.toDouble with
    | error fault =>
      refine failed fault fun position => ?_
      rw [DashedLine.place, Number.add_double left, Number.add_unconvertible top]
      rfl
    | ok y =>
      have placed := Alike.made (intervals.map fun interval =>
        .line ⟨x + line.across / line.loop.limit * interval.1,
          y + line.down / line.loop.limit * interval.1,
          x + line.across / line.loop.limit * interval.2,
          y + line.down / line.loop.limit * interval.2⟩ color width)
      rw [List.map_map] at placed
      rw [line.dash_drawn left top]
      exact placed

theorem each_makes {attempts : List (Except Fault DrawingCall)} (alike : Alike attempts) :
    (each attempts).Makes (.ofCalls (attempts.mapM id)) := by
  cases alike with
  | made calls =>
    have placed : (calls.map .ok).mapM id = (.ok calls : Except Fault (List DrawingCall)) := by
      rw [List.mapM_map]
      exact List.mapM_pure.trans (congrArg _ (List.map_id _))
    rw [placed, each, List.forM_eq_forM, List.forM_map]
    exact makes_calls calls
  | failed fault same =>
    cases attempts with
    | nil => exact makes_pure
    | cons attempt attempts =>
      have first := same attempt List.mem_cons_self
      subst first
      exact Draws.bind_error (draws_ofResult (.error fault)).bind_error

section Shape

variable (shape : Shape) (style : StyleTable) (width : Int) (scale : Number)

theorem dashes_make (line : DashedLine) (color : Text) (width : Int) :
    Makes (ofResult (line.dashes color width) >>= each)
      (.ofCalls (line.dashes color width >>= fun attempts => attempts.mapM id)) := by
  have computed := draws_ofResult (line.dashes color width)
  cases made : line.dashes color width with
  | error fault =>
    rw [made] at computed
    exact computed.bind_error
  | ok attempts =>
    rw [made] at computed
    exact Draws.bind computed (each_makes (dashes_alike made))

theorem edge_makes :
    (edge shape style width scale).Makes (.ofCalls (edgeCalls shape style width scale)) := by
  simp only [edge, edgeCalls, Drawing.ofCalls_bind]
  refine makes_after fun _ => makes_after fun _ => makes_after fun _ => makes_after fun _ => ?_
  split_ifs
  · rw [dashedCalls, Drawing.ofCalls_bind]
    exact makes_after fun line => dashes_make line _ _
  · rw [Drawing.ofCalls_bind]
    exact makes_after fun _ => makes_draw _

/-- A step for a shape draws the shape. -/
theorem shape_makes : (Step.shape scale shape).Makes (drawShape scale shape) := by
  have measured : drawShape scale shape =
      .after (measure (.ofStyle shape.style) "strokeWidth".toList 1 scale) fun width =>
        if shape.isEdge then .ofCalls (edgeCalls shape (.ofStyle shape.style) width scale)
        else if (StyleTable.ofStyle shape.style).contains "text".toList then
          .ofCalls (textCalls shape (.ofStyle shape.style) scale)
        else .ofCalls (boxCalls shape (.ofStyle shape.style) width scale) ++
          .ofCalls (textCalls shape (.ofStyle shape.style) scale) := by
    unfold drawShape
    extract_lets style text
    change _ = Drawing.after (measure style "strokeWidth".toList 1 scale) _
    cases measure style "strokeWidth".toList 1 scale <;> rfl
  rw [measured]
  refine makes_after fun width => ?_
  split_ifs
  · exact edge_makes shape _ width scale
  · exact text_makes shape _ scale
  · rw [Drawing.ofCalls_append]
    exact makes_after fun calls => (makes_calls calls).append (text_makes shape _ scale)

end Shape

/-- The steps for a list of shapes draw them in order, up to the first fault. -/
theorem shapes_makes (scale : Number) (shapes : List Shape) :
    (Step.shapes scale shapes).Makes (drawShapes scale shapes) := by
  induction shapes with
  | nil => exact makes_pure
  | cons shape shapes inductionHypothesis =>
    exact (shape_makes shape scale).append inductionHypothesis

/-- The drawing on an easel that a step finds without fonts and calls. -/
def drawing (step : Step Unit) : Drawing :=
  match step {} with
  | .ok _ easel => { calls := easel.calls }
  | .error fault easel => { calls := easel.calls, fault := some fault }

theorem Makes.drawing {step : Step Unit} {made : Drawing} (makes : step.Makes made) :
    step.drawing = made := by
  obtain ⟨easel, -, calls, ran⟩ := makes {} nofun
  rw [List.nil_append] at calls
  obtain ⟨_, fault⟩ := made
  subst calls
  unfold Step.drawing
  rw [ran]
  cases fault <;> rfl

end Step

/-- The preview of shapes that share the fonts loaded for them. -/
def render (shapes : List Shape) (config : LayoutConfig) (scale : Number) :
    Except Fault Preview := do
  return { side := ← pageSide config scale, drawing := (Step.shapes scale shapes).drawing }

theorem render_eq (shapes : List Shape) (config : LayoutConfig) (scale : Number) :
    render shapes config scale = ofShapes shapes config scale := by
  rw [render, ofShapes, (Step.shapes_makes scale shapes).drawing]

/-- Shapes are drawn after those before them, unless one of those failed. -/
theorem drawShapes_append (scale : Number) (first second : List Shape) :
    drawShapes scale (first ++ second) = drawShapes scale first ++ drawShapes scale second := by
  induction first with
  | nil => rfl
  | cons shape shapes inductionHypothesis =>
    rw [List.cons_append, drawShapes, inductionHypothesis, drawShapes, Drawing.append_assoc]

/-- Of shapes behind others, the preview shows the calls that they make alone. A fault among the
first ones leaves them out. The fonts that have been loaded change nothing. -/
theorem render_append (config : LayoutConfig) (scale : Number) (first second : List Shape) :
    (∀ easel : Easel, easel.Genuine → ∃ next : Easel,
      next.calls = easel.calls ++ (drawShapes scale first).calls ∧
        Step.shapes scale first easel = Step.ending next (drawShapes scale first).result) ∧
    render first config scale = ofShapes first config scale ∧
    (∀ fault, render first config scale = .error fault →
      render (first ++ second) config scale = .error fault) ∧
    ∀ early, render first config scale = .ok early →
      (early.drawing.fault ≠ none → render (first ++ second) config scale = .ok early) ∧
      (early.drawing.fault = none → ∃ late whole, render second config scale = .ok late ∧
        render (first ++ second) config scale = .ok whole ∧ whole.side = early.side ∧
        whole.drawing.calls = early.drawing.calls ++ late.drawing.calls ∧
        whole.drawing.fault = late.drawing.fault ∧
        ∀ fault, whole.image = .error fault ↔ late.image = .error fault) := by
  refine ⟨fun easel genuine => ?_, render_eq first config scale, ?_⟩
  · obtain ⟨next, -, calls, ran⟩ := Step.shapes_makes scale first easel genuine
    exact ⟨next, calls, ran⟩
  simp only [render_eq, ofShapes, drawShapes_append]
  cases pageSide config scale with
  | error fault => exact ⟨fun _ failed => failed, nofun⟩
  | ok side =>
    refine ⟨nofun, ?_⟩
    rintro early ⟨⟩
    refine ⟨fun failed => ?_, fun done => ?_⟩
    · change Except.ok (Preview.mk side (drawShapes scale first ++ drawShapes scale second)) = _
      rw [Drawing.append_some failed]
    · refine ⟨_, _, rfl, rfl, rfl, ?_, ?_, ?_⟩
      · rw [Drawing.append_none done]
      · rw [Drawing.append_none done]
      · intro fault
        rw [Drawing.append_none done]
        simp only [image]
        cases (drawShapes scale second).fault with
        | some late => rfl
        | none =>
          dsimp only
          split_ifs <;> simp

/-- A size that is not a number stops the drawing at its text, behind the text before it. -/
theorem render_append_unreadable :
    let labelled (style : Text) : Shape := Layout.vertex ['A'] style 0 0 10 10
    let first := [labelled "text;fontSize=12".toList]
    let second := [labelled "text;fontSize=large".toList]
    ∃ early whole, render first {} 1 = .ok early ∧ render (first ++ second) {} 1 = .ok whole ∧
      early.drawing.calls.length = 1 ∧ whole.drawing.calls = early.drawing.calls ∧
      whole.drawing.fault = some (.notNumeral "large".toList) := by
  intro labelled first second
  have page : pageSide {} 1 = .ok 800 := by decide +kernel
  have shown : render first {} 1 = .ok ⟨800, drawShapes 1 first⟩ := by
    rw [render_eq, ofShapes, page]
    rfl
  have one : (drawShapes 1 first).fault = none ∧ (drawShapes 1 first).calls.length = 1 := by
    decide +kernel
  have none : drawShapes 1 second = { fault := some (.notNumeral "large".toList) } := by
    decide +kernel
  obtain ⟨-, -, -, behind⟩ := render_append {} 1 first second
  obtain ⟨late, whole, lateShown, wholeShown, -, calls, fault, -⟩ := (behind _ shown).2 one.1
  rw [render_eq, ofShapes, page, none] at lateShown
  cases lateShown
  exact ⟨_, whole, shown, wholeShown, one.2, calls.trans (List.append_nil _), fault⟩

end Preview

end QuadrantChart
