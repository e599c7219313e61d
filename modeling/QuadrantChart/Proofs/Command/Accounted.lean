/-
This file proves what a run leaves: what it was asked for, or one report of why not.
-/

import QuadrantChart.Proofs.Calendar.Stamp
import QuadrantChart.Proofs.Command.Numbers
import QuadrantChart.Proofs.Diagram.ChartContent
import QuadrantChart.Proofs.File.Path
import QuadrantChart.Proofs.Preview.DividerReach

namespace QuadrantChart

/-- A report code has a name and determines the exit code. -/
theorem ReportCode.exitCode_fixed (code : ReportCode) :
    (code.text, code.exitCode) ∈ [("E_ARGS".toList, 2), ("E_IO_READ".toList, 2),
      ("E_CONFIG".toList, 2), ("E_IO_WRITE".toList, 4), ("E_INTERNAL".toList, 1)] := by
  cases code <;> decide

namespace ChartRequest

/-- Every destination can be read back from what a run prints of it. -/
theorem destination_wellFormed (request : ChartRequest) : request.destination.WellFormed := by
  rw [destination]
  split
  · exact Path.ofText_wellFormed _
  · exact Path.ofText_wellFormed _
  · exact (Path.ofText_wellFormed _).withExtension (by decide) (by decide)
  · exact Path.ofText_wellFormed _

/-- What is stored lies at the path that is printed, and nothing else has changed. -/
theorem stored_at {request : ChartRequest} {before after : FileTree} {content : Bytes}
    (written : before.write request.destination content = .ok after) :
    after.Stores (.ofText request.destination.written) content ∧
      before.DiffersAt after (.ofText request.destination.written) := by
  rw [request.destination_wellFormed.ofText_written]
  exact ⟨FileTree.write_stores written, FileTree.write_differsAt written⟩

/-- The product that a request makes of the source that it reads. -/
def Makes (request : ChartRequest) (now : Moment) (input : Bytes) (tree : FileTree)
    (product : Text) : Prop :=
  ∃ setting source, request.Produces now input tree setting source (.ok product)

end ChartRequest

namespace Invocation

/-- The lines that a run may log: a record of each skipped line of the source that it reads, if it
is asked for them. -/
inductive MayLog (arguments : List Text) (input : Bytes) (tree : FileTree) : List Text → Prop where
  | nothing : MayLog arguments input tree []
  | skips {invocation : Invocation} {request : ChartRequest} {source : Text}
      (read : ofArguments arguments = .ok invocation) (verbose : invocation.verbose = true)
      (command : invocation.command = some (.chart request))
      (reads : request.Reads input tree source) :
      MayLog arguments input tree ((Source.skips source).map Source.Skip.record)

/-- The arguments ask for a page, or for a product on standard output. -/
inductive AsksToPrint (arguments : List Text) (now : Moment) (input : Bytes) (tree : FileTree) :
    Text → Prop where
  | help {command : Option CommandName} (asked : ofArguments arguments = .error (.help command)) :
      AsksToPrint arguments now input tree (Help.page command)
  | cheatsheet {invocation : Invocation} (read : ofArguments arguments = .ok invocation)
      (command : invocation.command = some .cheatsheet) :
      AsksToPrint arguments now input tree (Cheatsheet.text ++ ['\n'])
  | product {request : ChartRequest} {product : Text} (asks : Asks arguments request)
      (prints : request.prints = true) (makes : request.Makes now input tree product) :
      AsksToPrint arguments now input tree product

/-- All of the product that is asked for is stored at a path, and nothing else is touched. -/
inductive Leaves (arguments : List Text) (now : Moment) (input : Bytes) (tree : FileTree)
    (path : Text) (after : FileTree) : Prop where
  | product {request : ChartRequest} {product : Text} (asks : Asks arguments request)
      (stores : request.prints = false) (makes : request.Makes now input tree product)
      (content : after.Stores (.ofText path) (Text.encodeUtf8 product))
      (frame : tree.DiffersAt after (.ofText path))

/-- A run that succeeds has printed what was asked for and touched no file, or it has stored all of
its product at the path that it prints last and touched nothing else. -/
inductive Succeeds (arguments : List Text) (environment : Environment) (input : Bytes)
    (tree : FileTree) : Outcome × FileTree → Prop where
  | printed {outcome : Outcome} {log : List Text}
      (output : AsksToPrint arguments environment.now input tree outcome.output)
      (mayLog : MayLog arguments input tree log)
      (errors : outcome.errors = log.flatMap fun record => record ++ ['\n']) :
      Succeeds arguments environment input tree (outcome, tree)
  | stored {path : Text} {count : Nat} {outcome : Outcome} {log : List Text} {after : FileTree}
      (leaves : Leaves arguments environment.now input tree path after)
      (output : outcome.output = "Found ".toList ++ Text.ofNat count ++ " data points.\n".toList ++
        ("Wrote ".toList ++ path ++ ['\n']))
      (mayLog : MayLog arguments input tree log)
      (errors : outcome.errors = log.flatMap fun record => record ++ ['\n']) :
      Succeeds arguments environment input tree (outcome, after)

/-- The one report of a run stands between the log and a trace, and it fixes the exit code. -/
def Reports (arguments : List Text) (environment : Environment) (input : Bytes) (tree : FileTree)
    (outcome : Outcome) (code : Nat) : Prop :=
  ∃ log report format trace, MayLog arguments input tree log ∧
    outcome.errors =
      (log.flatMap fun record => record ++ ['\n']) ++ Report.written report format ++ trace ∧
    (trace = [] ∨ trace = Failure.trace ∧ isTraced arguments environment = true) ∧
    (report.code.text, code) ∈ [("E_ARGS".toList, 2), ("E_IO_READ".toList, 2),
      ("E_CONFIG".toList, 2), ("E_IO_WRITE".toList, 4), ("E_INTERNAL".toList, 1)]

/-- A run that fails touches no file and prints at most how many points it found. -/
structure Fails (arguments : List Text) (environment : Environment) (input : Bytes)
    (tree : FileTree) (result : Outcome × FileTree) (code : Nat) : Prop where
  untouched : result.2 = tree
  output : result.1.output = [] ∨ ∃ count,
    result.1.output = "Found ".toList ++ Text.ofNat count ++ " data points.\n".toList
  reports : Reports arguments environment input tree result.1 code

/-- A run that has stored all of its product may fail to print the path. -/
inductive LeavesUntold (arguments : List Text) (environment : Environment) (input : Bytes)
    (tree : FileTree) (code : Nat) : Outcome × FileTree → Prop where
  | stored {path : Text} {count : Nat} {outcome : Outcome} {after : FileTree}
      (leaves : Leaves arguments environment.now input tree path after)
      (output : outcome.output = "Found ".toList ++ Text.ofNat count ++ " data points.\n".toList)
      (lacks : environment.encoding.takes path = false)
      (reports : Reports arguments environment input tree outcome code) :
      LeavesUntold arguments environment input tree code (outcome, after)

/-- The arguments ask for a preview with a divider whose loop over its dashes does not end. -/
inductive DrawsForever (arguments : List Text) (input : Bytes) (tree : FileTree) : Prop where
  | divider {request : ChartRequest} {setting : ChartSetting} {source : Text} {shapes : List Shape}
      {shape : Shape} {loop : Dash.Loop} (asks : Asks arguments request)
      (action : request.action = .preview) (consistent : request.setting = .ok setting)
      (reads : request.Reads input tree source)
      (placed : Layout.shapes setting.config (Source.chart source) = .ok shapes)
      (member : shape ∈ shapes) (isEdge : shape.isEdge = true)
      (made : shape.dashLoop setting.scale = .ok loop) (endless : ¬loop.Ends 0)

/-- A run that never ends draws a divider forever. It has reported and printed nothing, and it
touches no file. -/
structure NeverEnds (arguments : List Text) (environment : Environment) (input : Bytes)
    (tree : FileTree) (result : Outcome × FileTree) : Prop where
  untouched : result.2 = tree
  output : result.1.output = []
  errors : ∃ log, MayLog arguments input tree log ∧
    result.1.errors = log.flatMap fun record => record ++ ['\n']
  draws : DrawsForever arguments input tree

variable {arguments : List Text} {environment : Environment} {input : Bytes} {tree : FileTree}
  {result : Outcome × FileTree} {failure : Failure}

theorem mayLog_session (environment : Environment) {invocation : Invocation}
    {request : ChartRequest} {source : Text} (read : ofArguments arguments = .ok invocation)
    (command : invocation.command = some (.chart request))
    (reads : request.Reads input tree source) :
    MayLog arguments input tree ((invocation.session arguments environment).log source) := by
  rw [Session.log]
  split_ifs with verbose
  · exact .skips read verbose command reads
  · exact .nothing

/-- Only a source that is read is logged. -/
theorem Ends.mayLog (ends : Ends arguments environment input tree result) :
    MayLog arguments input tree result.1.log := by
  cases ends with
  | empty | refused | help | missing | cheatsheet => exact .nothing
  | chart read command ends =>
    cases ends with
    | refused => exact .nothing
    | delivered produces delivers =>
      have logs := mayLog_session environment read command produces.reads
      cases delivers <;> exact logs

/-- Only a run that asks for traces has one behind its report. -/
theorem Ends.traced (ends : Ends arguments environment input tree result)
    (failed : result.1.ending = .failed failure) (traced : failure.traced = true) :
    isTraced arguments environment = true := by
  cases ends with
  | empty | refused =>
    cases failed
    cases traced
  | missing =>
    cases failed
    exact traced
  | help | cheatsheet => cases failed
  | chart read command ends =>
    cases ends with
    | refused =>
      cases failed
      exact traced
    | delivered produces delivers =>
      cases delivers with
      | endless | printed | stored => cases failed
      | unmade | unprinted | unstored | untold =>
        cases failed
        exact traced

/-- The report of a failure stands between the log and a trace. -/
theorem Ends.errors (ends : Ends arguments environment input tree result)
    (failed : result.1.ending = .failed failure) :
    ∃ trace, result.1.errors = (result.1.log.flatMap fun record => record ++ ['\n']) ++
        failure.report.written failure.format ++ trace ∧
      (trace = [] ∨ trace = Failure.trace ∧ isTraced arguments environment = true) := by
  refine ⟨if failure.traced then Failure.trace else [], ?_, ?_⟩
  · simp [Outcome.errors, Outcome.failure?, failed, Failure.written]
  · split_ifs with isTraced
    · exact .inr ⟨rfl, ends.traced failed isTraced⟩
    · exact .inl rfl

theorem Ends.reports (ends : Ends arguments environment input tree result)
    (failed : result.1.ending = .failed failure) :
    Reports arguments environment input tree result.1 failure.report.code.exitCode := by
  obtain ⟨trace, errors, traced⟩ := ends.errors failed
  exact ⟨_, _, _, trace, ends.mayLog, errors, traced, failure.report.code.exitCode_fixed⟩

/-- A run that ends with a failure has stored nothing, or all of its product at a path that cannot
be printed. -/
theorem Ends.fails (ends : Ends arguments environment input tree result)
    (failed : result.1.ending = .failed failure) :
    Fails arguments environment input tree result failure.report.code.exitCode ∨
      failure.report.code.exitCode = 1 ∧
        LeavesUntold arguments environment input tree failure.report.code.exitCode result := by
  have reports := ends.reports failed
  cases ends with
  | empty | refused | missing => exact .inl ⟨rfl, .inl rfl, reports⟩
  | help | cheatsheet => cases failed
  | chart read command ends =>
    cases ends with
    | refused => exact .inl ⟨rfl, .inl rfl, reports⟩
    | delivered produces delivers =>
      cases delivers with
      | endless | printed | stored => cases failed
      | unmade | unprinted => exact .inl ⟨rfl, .inl rfl, reports⟩
      | unstored => exact .inl ⟨rfl, .inr ⟨_, rfl⟩, reports⟩
      | untold stores written lacks =>
        cases failed
        obtain ⟨content, frame⟩ := ChartRequest.stored_at written
        exact .inr ⟨rfl, .stored (.product ⟨_, read, command⟩ stores ⟨_, _, produces⟩ content frame)
          rfl lacks reports⟩

/-- A run that is done has left what was asked for. -/
theorem Ends.succeeds (ends : Ends arguments environment input tree result)
    (done : result.1.ending = .done) : Succeeds arguments environment input tree result := by
  have mayLog := ends.mayLog
  have errors : result.1.errors = result.1.log.flatMap fun record => record ++ ['\n'] := by
    apply Outcome.errors_unfailed
    rw [Outcome.failure?, done]
  cases ends with
  | empty | refused | missing => cases done
  | help asked => exact .printed (.help asked) mayLog errors
  | cheatsheet read command => exact .printed (.cheatsheet read command) mayLog errors
  | chart read command ends =>
    have asks : Asks arguments _ := ⟨_, read, command⟩
    cases ends with
    | refused => cases done
    | delivered produces delivers =>
      cases delivers with
      | endless | unmade | unprinted | unstored | untold => cases done
      | printed prints => exact .printed (.product asks prints ⟨_, _, produces⟩) mayLog errors
      | stored stores written =>
        obtain ⟨content, frame⟩ := ChartRequest.stored_at written
        exact .stored (.product asks stores ⟨_, _, produces⟩ content frame) rfl mayLog errors

/-- A product that is never made is a preview, and no conversion. -/
theorem draws_forever {request : ChartRequest} {setting : ChartSetting} {source : Text}
    {now : Moment} (asks : Asks arguments request)
    (produces : request.Produces now input tree setting source (.error .unending)) :
    DrawsForever arguments input tree := by
  obtain ⟨consistent, reads, made⟩ := produces
  obtain ⟨valid, moderate⟩ := asks_moderate asks consistent
  have sameAction := (ChartRequest.setting_ok consistent).1
  rw [ChartSetting.product] at made
  cases action : setting.action with
  | preview =>
    rw [action] at made
    obtain ⟨shapes, placed, shape, member, isEdge, loop, drawn, endless⟩ :=
      Preview.ofSource_unending moderate valid made
    exact .divider asks (sameAction.symm.trans action) consistent reads placed member isEdge drawn
      endless
  | convert =>
    obtain ⟨shapes, converted⟩ := Source.convert_stamped source moderate valid now
    rw [action] at made
    cases stamped : now.stamp with
    | ok stamp =>
      rw [stamped] at converted
      cases converted.symm.trans made
    | error fault =>
      rw [stamped] at converted
      cases converted.symm.trans made
      have outOfRange := (Moment.toUniversal_error.1 (Moment.stamp_error.1 stamped)).1
      cases outOfRange

theorem Ends.neverEnds (ends : Ends arguments environment input tree result)
    (never : result.1.ending = .never) : NeverEnds arguments environment input tree result := by
  have mayLog := ends.mayLog
  have errors : result.1.errors = result.1.log.flatMap fun record => record ++ ['\n'] := by
    apply Outcome.errors_unfailed
    rw [Outcome.failure?, never]
  cases ends with
  | empty | refused | help | missing | cheatsheet => cases never
  | chart read command ends =>
    have asks : Asks arguments _ := ⟨_, read, command⟩
    cases ends with
    | refused => cases never
    | delivered produces delivers =>
      cases delivers with
      | unmade | unprinted | printed | unstored | stored | untold => cases never
      | endless =>
        exact ⟨rfl, rfl, ⟨_, mayLog, errors⟩, draws_forever asks produces⟩

/-- Every run that ends has one of four exit codes. With zero it leaves what was asked for and no
report. Otherwise it leaves one report and every file as it was, unless it has stored all that was
asked for and only fails to print where. A run that never ends leaves nothing. -/
theorem run_accounted (arguments : List Text) (environment : Environment) (input : Bytes)
    (tree : FileTree) :
    let result := (run arguments environment).run input tree
    result.1.exitCode? = none ∧ NeverEnds arguments environment input tree result ∨
      ∃ code ∈ [0, 1, 2, 4], result.1.exitCode? = some code ∧
        (code = 0 ∧ Succeeds arguments environment input tree result ∨
          code ≠ 0 ∧ Fails arguments environment input tree result code ∨
          code = 1 ∧ LeavesUntold arguments environment input tree code result) := by
  intro result
  have ends : Ends arguments environment input tree result :=
    run_ends arguments environment input tree
  cases ending : result.1.ending with
  | never => exact .inl ⟨by rw [Outcome.exitCode?, ending], ends.neverEnds ending⟩
  | done =>
    exact .inr ⟨0, by decide, by rw [Outcome.exitCode?, ending], .inl ⟨rfl, ends.succeeds ending⟩⟩
  | failed failure =>
    have codes : failure.report.code.exitCode ∈ [0, 1, 2, 4] ∧
        failure.report.code.exitCode ≠ 0 := by
      cases failure.report.code <;> decide
    refine .inr ⟨_, codes.1, by rw [Outcome.exitCode?, ending], .inr ?_⟩
    rcases ends.fails ending with fails | untold
    · exact .inl ⟨codes.2, fails⟩
    · exact .inr untold

/-- A preview whose dashes are too short for its dividers never ends. -/
theorem preview_unending (now : Moment) :
    ((run (["preview", "--text=title", "--stdout", "--canvas-size=1e18", "--scale=1e-15"].map
      String.toList) { now }).run [] ⟨[], []⟩).1.exitCode? = none := by
  let request : ChartRequest :=
    { action := .preview, text := .given "title".toList, prints := true
      canvasSize := some (.double (.ofNat (10 ^ 18)))
      scale := some (.double (.ofQuotient false 1 (10 ^ 15))) }
  have read : ofArguments (["preview", "--text=title", "--stdout", "--canvas-size=1e18",
      "--scale=1e-15"].map String.toList) = .ok { command := some (.chart request) } := by
    decide +kernel
  have consistent : request.setting = .ok
      ⟨.preview, .double (.ofQuotient false 1 (10 ^ 15)),
        { canvasSize := .double (.ofNat (10 ^ 18)) }⟩ := by
    decide +kernel
  have given : request.text = .given "title".toList := rfl
  have scales : (Source.chart "title".toList).Scales (.double (.ofQuotient false 1 (10 ^ 15))) := by
    decide +kernel
  obtain ⟨preview, previewed, -, never, -⟩ := Chart.previewAt_large scales
  have made : (Source.chart "title".toList).previewAt { canvasSize := .double (.ofNat (10 ^ 18)) }
      (.double (.ofQuotient false 1 (10 ^ 15))) >>= Preview.image = .error .unending :=
    Result.bind_error.2 (.inr ⟨preview, previewed, by rw [Preview.image, never]⟩)
  have obtains : request.Obtains false [] ⟨[], []⟩ "title".toList :=
    ⟨.option rfl given, fun _ _ => rfl⟩
  exact (run_never { now } [] ⟨[], []⟩ read rfl consistent obtains).2 made

/-- A path with a line feed is not told on one line. Where only ASCII can be printed, a run fails
although it has stored what was asked for. A preview with dashes that are too short never ends. -/
theorem run_unaccounted :
    let now : Moment := ⟨⟨2024, 5, 1⟩, 12, 30, 45, 123456, none⟩
    let result (arguments : List String) (encoding : Encoding) :=
      (run (arguments.map String.toList) { now, encoding }).run [] ⟨[], []⟩
    let broken := result ["convert", "--text=title", "-o", "a\nb.drawio"] .utf8
    let accented := result ["convert", "--text=title", "-o", "\u00e9.drawio"] .ascii
    (broken.1.exitCode? = some 0 ∧ broken.2 ≠ ⟨[], []⟩ ∧
      Text.lines broken.1.output =
        ["Found 0 data points.".toList, "Wrote a".toList, "b.drawio".toList, []]) ∧
    (accented.1.exitCode? = some 1 ∧ accented.2 ≠ ⟨[], []⟩) ∧
    ((run (["preview", "--text=title", "--stdout", "--canvas-size=1e18", "--scale=1e-15"].map
      String.toList) { now }).run [] ⟨[], []⟩).1.exitCode? = none := by
  intro now result broken accented
  exact ⟨by decide +kernel, by decide +kernel, preview_unending now⟩

end Invocation

end QuadrantChart
