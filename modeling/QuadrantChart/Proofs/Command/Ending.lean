/-
This file says how a command ends, and what a chart command has read, made and stored when it
succeeds.
-/

import QuadrantChart.Proofs.Command.Printing
import QuadrantChart.Proofs.File.Tree

namespace QuadrantChart

namespace Outcome

variable {outcome : Outcome}

/-- Only a command that is done has the exit code zero. -/
theorem exitCode?_zero : outcome.exitCode? = some 0 ↔ outcome.ending = .done := by
  rw [exitCode?]
  cases outcome.ending with
  | done => simp
  | failed failure => cases code : failure.report.code <;> simp [ReportCode.exitCode, code]
  | never => simp

/-- Any other exit code is that of a failure. -/
theorem exitCode?_nonzero {code : Nat} (ended : outcome.exitCode? = some code)
    (nonzero : code ≠ 0) :
    ∃ failure, outcome.ending = .failed failure ∧ failure.report.code.exitCode = code := by
  rw [exitCode?] at ended
  cases ending : outcome.ending with
  | done =>
    rw [ending] at ended
    cases ended
    exact absurd rfl nonzero
  | failed failure =>
    rw [ending] at ended
    exact ⟨failure, rfl, Option.some.inj ended⟩
  | never =>
    rw [ending] at ended
    cases ended

theorem failure?_some {failure : Failure} :
    outcome.failure? = some failure ↔ outcome.ending = .failed failure := by
  rw [failure?]
  cases outcome.ending <;> simp

/-- Without a failure, only the log appears on standard error. -/
theorem errors_unfailed (unfailed : outcome.failure? = none) :
    outcome.errors = outcome.log.flatMap fun record => record ++ ['\n'] := by
  rw [errors, unfailed, Option.map_none, Option.getD_none, List.append_nil]

end Outcome

namespace ChartRequest

/-- The source that a request reads: the text of its option, or the decoded text of its file or of
the standard input. -/
inductive Reads (request : ChartRequest) (input : Bytes) (tree : FileTree) : Text → Prop where
  | option {source : Text} (noFile : request.input = none) (given : request.text = .given source) :
      Reads request input tree source
  | file {name source : Text} {bytes : Bytes} (noText : request.text = .missing)
      (named : request.input = some name) (found : tree.read (.ofText name) = .ok bytes)
      (decoded : Text.decodeUtf8 bytes = .ok source) :
      Reads request input tree (Text.unifyLineEnds source)
  | standardInput {source : Text} (noText : request.text = .missing)
      (noFile : request.input = none) (decoded : Text.decodeUtf8 input = .ok source) :
      Reads request input tree (Text.unifyLineEnds source)

variable {request : ChartRequest} {session : Session} {input : Bytes} {tree : FileTree}

/-- A request is consistent, and its product of the source that it reads is a text or a fault. -/
structure Produces (request : ChartRequest) (now : Moment) (input : Bytes) (tree : FileTree)
    (setting : ChartSetting) (source : Text) (product : Except Fault Text) : Prop where
  consistent : request.setting = .ok setting
  reads : request.Reads input tree source
  made : setting.product now source = product

/-- What becomes of the product of a source: it is printed or stored, unless it cannot be made,
printed or stored. The path of what is stored is told if it can be printed. -/
inductive Delivers (request : ChartRequest) (session : Session) (tree : FileTree) (source : Text) :
    Except Fault Text → Outcome × FileTree → Prop where
  | endless :
      Delivers request session tree source (.error .unending)
        ({ log := session.log source, ending := .never }, tree)
  | unmade {fault : Fault} (ends : fault ≠ .unending) :
      Delivers request session tree source (.error fault)
        ({ log := session.log source
           ending := .failed ⟨.ofUnexpected fault.message, session.format, session.traced⟩ }, tree)
  | unprinted {product : Text} (prints : request.prints = true)
      (converts : request.action = .convert) (lacks : session.encoding.takes product = false) :
      Delivers request session tree source (.ok product)
        ({ log := session.log source
           ending := .failed ⟨.ofUnexpected (session.encoding.complaint product), session.format,
             session.traced⟩ }, tree)
  | printed {product : Text} (prints : request.prints = true)
      (takes : request.action = .convert → session.encoding.takes product = true) :
      Delivers request session tree source (.ok product)
        ({ output := product, log := session.log source }, tree)
  | unstored {product : Text} {fault : FileFault} (stores : request.prints = false)
      (fails : tree.write request.destination (Text.encodeUtf8 product) = .error fault) :
      Delivers request session tree source (.ok product)
        ({ output := foundLine source
           log := session.log source
           ending := .failed ⟨.ofWriting request.destination fault, session.format,
             session.traced⟩ }, tree)
  | stored {product : Text} {after : FileTree} (stores : request.prints = false)
      (written : tree.write request.destination (Text.encodeUtf8 product) = .ok after)
      (takes : session.encoding.takes request.destination.written = true) :
      Delivers request session tree source (.ok product)
        ({ output := foundLine source ++ wroteLine request.destination
           log := session.log source }, after)
  | untold {product : Text} {after : FileTree} (stores : request.prints = false)
      (written : tree.write request.destination (Text.encodeUtf8 product) = .ok after)
      (lacks : session.encoding.takes request.destination.written = false) :
      Delivers request session tree source (.ok product)
        ({ output := foundLine source
           log := session.log source
           ending := .failed ⟨.ofUnexpected (session.encoding.complaint
             (wroteLine request.destination)), session.format, session.traced⟩ }, after)

/-- How a request can end: it is refused before it makes anything, or its product is delivered. -/
inductive Ends (request : ChartRequest) (session : Session) (input : Bytes) (tree : FileTree) :
    Outcome × FileTree → Prop where
  | refused {report : Report} :
      Ends request session input tree
        ({ ending := .failed ⟨report, session.format, session.traced⟩ }, tree)
  | delivered {setting : ChartSetting} {source : Text} {product : Except Fault Text}
      {result : Outcome × FileTree}
      (produces : request.Produces session.now input tree setting source product)
      (delivers : request.Delivers session tree source product result) :
      Ends request session input tree result

/-- Decoded bytes are gone on with, and others are reported. -/
theorem withDecoded_run (session : Session) (bytes : Bytes) (next : Text → Interaction) :
    (∃ source, Text.decodeUtf8 bytes = .ok source ∧
      withDecoded session bytes next = next (Text.unifyLineEnds source)) ∨
    ∃ report, withDecoded session bytes next = session.fail [] [] report := by
  rw [withDecoded]
  cases decoded : Text.decodeUtf8 bytes with
  | ok source => exact .inl ⟨source, rfl, rfl⟩
  | error fault => exact .inr ⟨_, rfl⟩

/-- A request that names a file checks it first, and then opens it. -/
theorem withSource_file {name : Text} (named : request.input = some name)
    (noText : request.text = .missing) (session : Session) (next : Text → Interaction)
    (input : Bytes) (tree : FileTree) :
    (request.withSource session next).run input tree =
      (match tree.check (.ofText name), tree.read (.ofText name) with
        | none, .ok bytes => withDecoded session bytes next
        | none, .error fault => session.fail [] [] (.ofReading (.ofText name) fault)
        | some fault, _ => session.fail [] [] (.ofCheck (.ofText name) fault)).run input tree := by
  simp only [withSource, named, noText, Interaction.run]
  cases tree.check (.ofText name) with
  | some fault => rfl
  | none =>
    simp only [Interaction.run]
    cases tree.read (.ofText name) <;> rfl

/-- A file that is read goes on with its bytes. -/
theorem withSource_opened {name : Text} {bytes : Bytes} (named : request.input = some name)
    (noText : request.text = .missing) (opened : tree.read (.ofText name) = .ok bytes)
    (session : Session) (next : Text → Interaction) (input : Bytes) :
    (request.withSource session next).run input tree =
      (withDecoded session bytes next).run input tree := by
  rw [withSource_file named noText, FileTree.check_read opened, opened]

/-- A run goes on with the source that it reads, or it reports why there is none. -/
theorem withSource_run (request : ChartRequest) (session : Session) (input : Bytes)
    (tree : FileTree) (next : Text → Interaction) :
    (∃ source, request.Reads input tree source ∧
      (request.withSource session next).run input tree = (next source).run input tree) ∨
    ∃ report, (request.withSource session next).run input tree =
      (session.fail [] [] report).run input tree := by
  cases named : request.input with
  | some name =>
    cases text : request.text with
    | missing =>
      cases found : tree.read (.ofText name) with
      | ok bytes =>
        rw [withSource_opened named text found]
        rcases withDecoded_run session bytes next with ⟨source, decoded, equal⟩ | ⟨report, equal⟩
        · exact .inl ⟨_, .file text named found decoded, congrArg _ equal⟩
        · exact .inr ⟨report, congrArg _ equal⟩
      | error fault =>
        rw [withSource_file named text, found]
        cases tree.check (.ofText name) with
        | none => exact .inr ⟨_, rfl⟩
        | some absent => exact .inr ⟨_, rfl⟩
    | blank | given =>
      rw [withSource, named, text]
      exact .inr ⟨.twoSources, rfl⟩
  | none =>
    rw [withSource, named]
    cases text : request.text with
    | missing =>
      by_cases terminal : session.terminal = true
      · exact .inr ⟨.noSource, by simp only [if_pos terminal]⟩
      · simp only [if_neg terminal, Interaction.run]
        rcases withDecoded_run session input next with ⟨source, decoded, equal⟩ | ⟨report, equal⟩
        · exact .inl ⟨_, .standardInput text named decoded, congrArg _ equal⟩
        · exact .inr ⟨report, congrArg _ equal⟩
    | blank => exact .inr ⟨.blankSource, rfl⟩
    | given source => exact .inl ⟨source, .option named text, rfl⟩

/-- The source that a request reads when it does not have to wait for a terminal. -/
structure Obtains (request : ChartRequest) (terminal : Bool) (input : Bytes) (tree : FileTree)
    (source : Text) : Prop where
  reads : request.Reads input tree source
  piped : request.input = none → request.text = .missing → terminal = false

theorem withSource_obtains {source : Text}
    (obtains : request.Obtains session.terminal input tree source) (next : Text → Interaction) :
    (request.withSource session next).run input tree = (next source).run input tree := by
  obtain ⟨reads, piped⟩ := obtains
  cases reads with
  | option noFile given => simp only [withSource, noFile, given]
  | file noText named found decoded =>
    rw [withSource_opened named noText found]
    simp only [withDecoded, decoded]
  | standardInput noText noFile decoded =>
    simp only [withSource, noText, noFile, piped noFile noText, Bool.false_eq_true, if_false,
      Interaction.run, withDecoded, decoded]

/-- A request that obtains no source fails before it logs or prints anything. -/
theorem withSource_unobtained
    (none : ∀ source, ¬request.Obtains session.terminal input tree source)
    (next : Text → Interaction) :
    ∃ report, (request.withSource session next).run input tree =
      (session.fail [] [] report).run input tree := by
  rcases withSource_run request session input tree next with ⟨source, reads, -⟩ | fails
  · have waits : request.input = .none ∧ request.text = .missing ∧ session.terminal = true := by
      by_contra piped
      refine none source ⟨reads, fun noFile noText => ?_⟩
      simpa [noFile, noText] using piped
    obtain ⟨noFile, noText, terminal⟩ := waits
    exact ⟨.noSource, by simp only [withSource, noFile, noText, terminal, if_true]⟩
  · exact fails

theorem deliver_unending {setting : ChartSetting} {source : Text}
    (made : setting.product session.now source = .error .unending) :
    request.deliver setting session source =
      .finish { log := session.log source, ending := .never } := by
  simp only [deliver, made]

theorem deliver_fault {setting : ChartSetting} {source : Text} {fault : Fault}
    (made : setting.product session.now source = .error fault) (ends : fault ≠ .unending) :
    request.deliver setting session source =
      session.fail [] (session.log source) (.ofUnexpected fault.message) := by
  simp only [deliver, made]

theorem deliver_product {setting : ChartSetting} {source product : Text}
    (made : setting.product session.now source = .ok product) :
    request.deliver setting session source =
      if request.prints then request.printProduct session (session.log source) product
      else request.store session (session.log source) source product := by
  simp only [deliver, made]

/-- A product is stored after the number of its points is printed. -/
theorem store_run (request : ChartRequest) (session : Session) (log : List Text)
    (source product : Text) (input : Bytes) (tree : FileTree) :
    (request.store session log source product).run input tree =
      match tree.write request.destination (Text.encodeUtf8 product) with
      | .ok after =>
        (session.print (foundLine source) log (wroteLine request.destination) fun output =>
          .finish { output, log }).run input after
      | .error fault =>
        (session.fail (foundLine source) log (.ofWriting request.destination fault)).run input
          tree := by
  have printed := session.encoding.takes_foundLine source
  rewrite [store, Session.print_taken printed, Interaction.run, List.nil_append]
  cases tree.write request.destination (Text.encodeUtf8 product) <;> rfl

/-- The product of a setting is delivered. -/
theorem deliver_run (request : ChartRequest) (setting : ChartSetting) (session : Session)
    (source : Text) (input : Bytes) (tree : FileTree) :
    request.Delivers session tree source (setting.product session.now source)
      ((request.deliver setting session source).run input tree) := by
  cases made : setting.product session.now source with
  | error fault =>
    by_cases endless : fault = .unending
    · subst endless
      rw [deliver_unending made]
      exact .endless
    · rw [deliver_fault made endless]
      exact .unmade endless
  | ok product =>
    rw [deliver_product made]
    cases prints : request.prints with
    | true =>
      rw [if_pos rfl, printProduct]
      cases action : request.action with
      | preview => exact .printed prints fun converts => nomatch action.symm.trans converts
      | convert =>
        cases takes : session.encoding.takes product with
        | true =>
          simp only [Session.print_taken takes]
          exact .printed prints fun _ => takes
        | false =>
          simp only [Session.print_lacking takes]
          exact .unprinted prints action takes
    | false =>
      rw [if_neg Bool.false_ne_true, store_run]
      cases written : tree.write request.destination (Text.encodeUtf8 product) with
      | error fault => exact .unstored prints written
      | ok after =>
        have line := session.encoding.takes_wroteLine request.destination
        cases takes : session.encoding.takes request.destination.written with
        | true =>
          simp only [Session.print_taken (line.trans takes)]
          exact .stored prints written takes
        | false =>
          simp only [Session.print_lacking (line.trans takes)]
          exact .untold prints written takes

/-- Only a product that is never made keeps its delivery from ending. -/
theorem deliver_never {setting : ChartSetting} {source : Text} :
    ((request.deliver setting session source).run input tree).1.exitCode? = none ↔
      setting.product session.now source = .error .unending := by
  have delivers := request.deliver_run setting session source input tree
  generalize (request.deliver setting session source).run input tree = result at delivers ⊢
  generalize setting.product session.now source = product at delivers ⊢
  cases delivers with
  | endless => exact ⟨fun _ => rfl, fun _ => rfl⟩
  | unmade ends => exact ⟨nofun, fun endless => absurd (Except.error.inj endless) ends⟩
  | unprinted | printed | unstored | stored | untold => exact ⟨nofun, nofun⟩

/-- Every run of a request ends in one of these ways. -/
theorem start_ends (request : ChartRequest) (session : Session) (input : Bytes) (tree : FileTree) :
    request.Ends session input tree ((request.start session).run input tree) := by
  rw [start]
  cases consistent : request.setting with
  | error report => exact .refused
  | ok setting =>
    rcases withSource_run request session input tree (request.deliver setting session) with
      ⟨source, reads, run⟩ | ⟨report, run⟩
    · simp only [run]
      exact .delivered ⟨consistent, reads, rfl⟩ (request.deliver_run setting session source _ _)
    · simp only [run]
      exact .refused

/-- Dimensions that are read are given and valid. -/
theorem readConfig_ok {config : LayoutConfig} (configured : request.readConfig = .ok config) :
    ∃ canvasSize padding, request.canvasSize = some canvasSize ∧ request.padding = some padding ∧
      config = { canvasSize, padding } ∧ config.validate = .ok () := by
  rw [readConfig] at configured
  split at configured
  · cases configured
  · cases configured
  · next canvasSize padding size space =>
    simp only at configured
    split at configured
    · next valid =>
      cases configured
      exact ⟨canvasSize, padding, size, space, rfl, valid⟩
    · cases configured

theorem setting_ok {setting : ChartSetting} (consistent : request.setting = .ok setting) :
    setting.action = request.action ∧ request.readScale = .ok setting.scale ∧
      request.readConfig = .ok setting.config := by
  rw [ChartRequest.setting] at consistent
  split_ifs at consistent with contradicts
  · cases consistent
  · simp only [Result.bind_ok, Result.pure_ok] at consistent
    obtain ⟨scale, scaled, config, configured, rfl⟩ := consistent
    exact ⟨rfl, scaled, configured⟩

/-- A run that succeeds has read a source and stored its product, and says so. -/
theorem start_run (stores : request.prints = false)
    (succeeds : ((request.start session).run input tree).1.exitCode? = some 0) :
    ∃ (setting : ChartSetting) (source product : Text) (after : FileTree),
      request.Produces session.now input tree setting source (.ok product) ∧
      tree.write request.destination (Text.encodeUtf8 product) = .ok after ∧
      (request.start session).run input tree =
        ({ output := foundLine source ++ wroteLine request.destination
           log := session.log source }, after) := by
  have ends := request.start_ends session input tree
  rw [Outcome.exitCode?_zero] at succeeds
  generalize (request.start session).run input tree = result at ends succeeds ⊢
  cases ends with
  | refused => cases succeeds
  | delivered produces delivers =>
    cases delivers with
    | endless | unmade | unprinted | unstored | untold => cases succeeds
    | printed prints => cases stores.symm.trans prints
    | stored _ written => exact ⟨_, _, _, _, produces, written, rfl⟩

end ChartRequest

namespace Invocation

/-- Arguments that ask for a chart command. -/
def Asks (arguments : List Text) (request : ChartRequest) : Prop :=
  ∃ invocation, ofArguments arguments = .ok invocation ∧ invocation.command = some (.chart request)

theorem run_read {arguments : List Text} {invocation : Invocation} {request : ChartRequest}
    (read : ofArguments arguments = .ok invocation)
    (command : invocation.command = some (.chart request)) (environment : Environment) :
    run arguments environment = request.start (invocation.session arguments environment) := by
  have given : arguments.isEmpty = false := by
    cases arguments with
    | nil =>
      have none : ofArguments [] = .ok {} := rfl
      cases none.symm.trans read
      cases command
    | cons word words => rfl
  simp [run, given, read, start, command]

theorem run_asks {arguments : List Text} {request : ChartRequest} (asks : Asks arguments request)
    (environment : Environment) :
    ∃ session, session.now = environment.now ∧
      run arguments environment = request.start session := by
  obtain ⟨invocation, read, command⟩ := asks
  exact ⟨invocation.session arguments environment, rfl, run_read read command environment⟩

/-- Only a product that is never made keeps a run from ending. -/
theorem run_never {arguments : List Text} {invocation : Invocation} {request : ChartRequest}
    {setting : ChartSetting} {source : Text} (environment : Environment) (input : Bytes)
    (tree : FileTree) (read : ofArguments arguments = .ok invocation)
    (command : invocation.command = some (.chart request))
    (consistent : request.setting = .ok setting)
    (obtains : request.Obtains environment.terminal input tree source) :
    ((run arguments environment).run input tree).1.exitCode? = none ↔
      setting.product environment.now source = .error .unending := by
  let session := invocation.session arguments environment
  have goesOn : (request.withSource session (request.deliver setting session)).run input tree =
      (request.deliver setting session source).run input tree :=
    ChartRequest.withSource_obtains obtains _
  rw [run_read read command, ChartRequest.start, consistent]
  dsimp only
  rw [goesOn]
  exact ChartRequest.deliver_never

/-- How a run of some arguments can end: the arguments are refused or ask for help, or the command
that they name is carried out. -/
inductive Ends (arguments : List Text) (environment : Environment) (input : Bytes)
    (tree : FileTree) : Outcome × FileTree → Prop where
  | empty (none : arguments = []) :
      Ends arguments environment input tree
        ({ ending := .failed ⟨.noCommand, .plain, false⟩ }, tree)
  | refused {fault : UsageFault} (unusable : ofArguments arguments = .error (.usage fault)) :
      Ends arguments environment input tree
        ({ ending := .failed ⟨.ofUsage fault.message, usageFormat arguments, false⟩ }, tree)
  | help {command : Option CommandName} (asked : ofArguments arguments = .error (.help command)) :
      Ends arguments environment input tree ({ output := Help.page command }, tree)
  | missing {invocation : Invocation} (read : ofArguments arguments = .ok invocation)
      (none : invocation.command = none) :
      Ends arguments environment input tree
        ({ ending := .failed
            ⟨.noCommand, invocation.format, isTraced arguments environment⟩ }, tree)
  | cheatsheet {invocation : Invocation} (read : ofArguments arguments = .ok invocation)
      (command : invocation.command = some .cheatsheet) :
      Ends arguments environment input tree ({ output := Cheatsheet.text ++ ['\n'] }, tree)
  | chart {invocation : Invocation} {request : ChartRequest} {result : Outcome × FileTree}
      (read : ofArguments arguments = .ok invocation)
      (command : invocation.command = some (.chart request))
      (ends : request.Ends (invocation.session arguments environment) input tree result) :
      Ends arguments environment input tree result

/-- Every run ends in one of these ways. -/
theorem run_ends (arguments : List Text) (environment : Environment) (input : Bytes)
    (tree : FileTree) :
    Ends arguments environment input tree ((run arguments environment).run input tree) := by
  rw [run]
  split_ifs with empty
  · exact .empty (List.isEmpty_iff.1 empty)
  · split
    · next command asked =>
      rw [Session.print_taken (Encoding.takes_help command)]
      exact .help asked
    · next fault unusable => exact .refused unusable
    · next invocation read =>
      rw [start]
      cases command : invocation.command with
      | none => exact .missing read command
      | some name =>
        cases name with
        | cheatsheet =>
          simp only [Session.print_taken Encoding.takes_cheatsheet]
          exact .cheatsheet read command
        | chart request => exact .chart read command (request.start_ends _ input tree)

end Invocation

end QuadrantChart
