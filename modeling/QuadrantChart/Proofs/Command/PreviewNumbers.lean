/-
This file proves how a preview command ends, depending on its numbers.
-/

import QuadrantChart.Proofs.Command.Numbers
import QuadrantChart.Proofs.Command.Unreadable
import QuadrantChart.Proofs.Preview.Sizes

namespace QuadrantChart

namespace ChartRequest

/-- A preview request of a source that is right in everything but its numbers: it prints its image
or has a place to store it, with a path that can be printed. -/
structure Previews (request : ChartRequest) (environment : Environment) (input : Bytes)
    (tree : FileTree) (source : Text) (scale canvasSize padding : Number) : Prop where
  action : request.action = .preview
  single : (request.prints && request.output.isSome) = false
  scale : request.scale = some scale
  canvasSize : request.canvasSize = some canvasSize
  padding : request.padding = some padding
  source : request.Obtains environment.terminal input tree source
  place : request.prints = true ∨
    environment.encoding.takes request.destination.written = true ∧
      ∀ content, ∃ after, tree.write request.destination content = .ok after

variable {request : ChartRequest} {session : Session} {input : Bytes} {tree : FileTree}
  {source : Text} {scale canvasSize padding : Number}

/-- A request with a contradiction is refused before anything is read. -/
theorem start_refuses {report : Report} (contradicts : request.setting = .error report) :
    Outcome.Refuses ((request.start session).run input tree) tree report.code report.file := by
  rw [start, contradicts]
  exact fail_refuses session report

/-- What cannot be made is reported as a fault of the program, and nothing is stored. -/
theorem deliver_fails {setting : ChartSetting} {fault : Fault}
    (fails : setting.product session.now source = .error fault) (ends : fault ≠ .unending) :
    let result := (request.deliver setting session source).run input tree
    result.2 = tree ∧ result.1.exitCode? = some 1 ∧
      ∃ failure, result.1.failure? = some failure ∧ failure.report.code = .unexpected := by
  rw [deliver_fault fails ends]
  exact ⟨rfl, rfl, _, rfl, rfl⟩

namespace Previews

variable {environment : Environment}
  (previews : request.Previews environment input tree source scale canvasSize padding)
include previews

theorem setting_flat (flat : scale.le 0 = true) : request.setting = .error .scaleNotPositive := by
  rw [setting, readScale, previews.single, previews.action, previews.scale]
  simp only [flat]
  rfl

/-- With a positive scale, only the dimensions decide whether a request is refused. -/
theorem setting_positive (positive : scale.le 0 = false) :
    request.setting =
      match ({ canvasSize, padding } : LayoutConfig).validate with
      | .ok _ => .ok ⟨.preview, scale, { canvasSize, padding }⟩
      | .error fault => .error (.ofConfig fault.message) := by
  rw [setting, readScale, readConfig, previews.single, previews.action, previews.scale,
    previews.canvasSize, previews.padding]
  simp only [positive]
  cases ({ canvasSize, padding } : LayoutConfig).validate <;> rfl

theorem deliver_succeeds {setting : ChartSetting} {product : Text}
    (sameEncoding : session.encoding = environment.encoding)
    (made : setting.product session.now source = .ok product) :
    ((request.deliver setting session source).run input tree).1.exitCode? = some 0 := by
  have delivers := request.deliver_run setting session source input tree
  rw [made] at delivers
  generalize (request.deliver setting session source).run input tree = result at delivers ⊢
  have place (stores : request.prints = false) :=
    previews.place.resolve_left (Bool.eq_false_iff.1 stores)
  rw [← sameEncoding] at place
  cases delivers with
  | printed | stored => rfl
  | unprinted _ converts => cases previews.action.symm.trans converts
  | unstored stores fails =>
    obtain ⟨after, written⟩ := (place stores).2 _
    cases fails.symm.trans written
  | untold stores _ lacks => cases lacks.symm.trans (place stores).1

end Previews

end ChartRequest

namespace Invocation

/-- A preview whose scale is at most zero or whose dimensions are not valid is refused. Any other
preview that ends succeeds when its chart is drawn in finite sizes, and fails with a fault of the
program when it is not. -/
theorem preview_ends {arguments : List Text} {request : ChartRequest} {input : Bytes}
    {tree : FileTree} {source : Text} {scale canvasSize padding : Number}
    (environment : Environment) (asks : Asks arguments request)
    (previews : request.Previews environment input tree source scale canvasSize padding) :
    let result := (run arguments environment).run input tree
    let config : LayoutConfig := { canvasSize, padding }
    (scale.le 0 = true → Outcome.Refuses result tree .arguments none) ∧
      (scale.le 0 = false → config.validate ≠ .ok () →
        Outcome.Refuses result tree .configuration none) ∧
      (scale.le 0 = false → config.validate = .ok () → result.1.exitCode? ≠ none →
        ((Source.chart source).IsSized config scale → result.1.exitCode? = some 0) ∧
        (¬(Source.chart source).IsSized config scale →
          result.2 = tree ∧ result.1.exitCode? = some 1 ∧
            ∃ failure, result.1.failure? = some failure ∧
              failure.report.code = .unexpected)) := by
  intro result config
  have numeric := asks_isNumeric asks
  obtain ⟨invocation, read, command⟩ := asks
  have started : result =
      (request.start (invocation.session arguments environment)).run input tree :=
    congrArg _ (run_read read command environment)
  rw [started]
  refine ⟨fun flat => ?_, fun positive invalid => ?_, fun positive valid => ?_⟩
  · exact ChartRequest.start_refuses (previews.setting_flat flat)
  · have contradicts := previews.setting_positive positive
    cases checked : config.validate with
    | ok => exact absurd checked invalid
    | error fault =>
      rw [checked] at contradicts
      exact ChartRequest.start_refuses contradicts
  · obtain ⟨value, rfl⟩ := numeric.scale _ previews.scale
    have consistent := previews.setting_positive positive
    rw [valid] at consistent
    obtain ⟨-, moderate⟩ := asks_moderate ⟨_, read, command⟩ consistent
    simp only [ChartRequest.start, consistent]
    rw [ChartRequest.withSource_obtains previews.source]
    intro ends
    have terminates := mt ChartRequest.deliver_never.2 ends
    have made := Preview.ofSource_iff moderate valid positive terminates
    constructor
    · intro sized
      obtain ⟨file, product⟩ := made.2 sized
      exact previews.deliver_succeeds rfl product
    · intro unsized
      cases product : Preview.ofSource source config (.double value) >>= Preview.image with
      | ok file => exact absurd (made.1 ⟨file, product⟩) unsized
      | error fault =>
        exact ChartRequest.deliver_fails product fun endless => terminates (endless ▸ product)

/-- A chart with one point is drawn in twice its size. -/
theorem preview_ends_twice :
    let arguments := ["preview", "--text=A: [0.5, 0.5]", "--stdout", "--scale=2"].map String.toList
    let environment : Environment := { now := ⟨⟨2024, 5, 1⟩, 12, 30, 45, 123456, none⟩ }
    let request : ChartRequest :=
      { action := .preview, text := .given "A: [0.5, 0.5]".toList, prints := true
        scale := some (.double 2) }
    (Asks arguments request ∧
        request.Previews environment [] ⟨[], []⟩ "A: [0.5, 0.5]".toList (.double 2) 600 100) ∧
      ((run arguments environment).run [] ⟨[], []⟩).1.exitCode? = some 0 := by
  intro arguments environment request
  have read : ofArguments arguments = .ok { command := some (.chart request) } := by decide +kernel
  have asks : Asks arguments request := ⟨_, read, rfl⟩
  have previews : request.Previews environment [] ⟨[], []⟩ "A: [0.5, 0.5]".toList (.double 2) 600
      100 :=
    ⟨rfl, rfl, rfl, rfl, rfl, ⟨.option rfl rfl, fun _ missing => by cases missing⟩, .inl rfl⟩
  have drawn : (Preview.ofSource "A: [0.5, 0.5]".toList { canvasSize := 600, padding := 100 }
      (.double 2) >>= Preview.image).isOk = true := by
    -- The styles are spelled out first, since the kernel is slow to read literals.
    unfold Preview.ofSource Layout.shapes Layout.frameShapes Layout.captionShapes
      Layout.dividerShapes Layout.axisShapes Layout.pointShapes Style.title Style.border
      Style.watermark Style.divider Style.lowLabel Style.highLabel Style.axisLabel Style.pointLabel
      Style.marker Style.textBase
    repeat rw [String.toList_append]
    repeat rw [String.toList_ofList]
    decide +kernel
  obtain ⟨file, made⟩ := Result.isOk_iff.1 drawn
  have consistent : request.setting = .ok
      ⟨.preview, .double 2, { canvasSize := 600, padding := 100 }⟩ := by
    decide +kernel
  have ended : ((run arguments environment).run [] ⟨[], []⟩).1.exitCode? ≠ none := fun never =>
    nomatch made.symm.trans
      ((run_never environment [] ⟨[], []⟩ read rfl consistent previews.source).1 never)
  obtain ⟨-, -, ends⟩ := preview_ends environment asks previews
  obtain ⟨succeeds, -⟩ := ends (by decide +kernel) (by decide +kernel) ended
  exact ⟨⟨asks, previews⟩, succeeds (by decide +kernel)⟩

/-- A scale that is not a number is not refused, and yet nothing is drawn at it. -/
theorem preview_fails_nan :
    let environment : Environment := { now := ⟨⟨2024, 5, 1⟩, 12, 30, 45, 123456, none⟩ }
    let arguments := ["preview", "--text=A: [0.5, 0.5]", "--stdout", "--scale=nan"]
    let outcome := ((run (arguments.map String.toList) environment).run [] ⟨[], []⟩).1
    ({} : LayoutConfig).validate = .ok () ∧ outcome.exitCode? = some 1 ∧
      outcome.failure?.map (fun failure => failure.report.code) = some .unexpected := by
  decide +kernel

end Invocation

end QuadrantChart
