/-
This file proves that the option for verbose runs changes nothing but the log.
-/

import QuadrantChart.Command.Process
import QuadrantChart.Proofs.Command.Arguments
import QuadrantChart.Proofs.Command.Ending

namespace QuadrantChart

namespace Interaction

/-- A changed log changes neither the rest of an outcome nor the files. -/
theorem run_mapLog (interaction : Interaction) (change : List Text → List Text) (input : Bytes)
    (tree : FileTree) :
    (interaction.mapLog change).run input tree =
      ({ (interaction.run input tree).1 with log := change (interaction.run input tree).1.log },
        (interaction.run input tree).2) := by
  induction interaction generalizing tree with
  | finish outcome => rfl
  | checkFile path next inductionHypothesis => exact inductionHypothesis _ tree
  | readFile path next inductionHypothesis => exact inductionHypothesis _ tree
  | readInput next inductionHypothesis => exact inductionHypothesis input tree
  | writeFile path content next inductionHypothesis =>
    simp only [mapLog, run]
    cases tree.write path content with
    | ok after => exact inductionHypothesis none after
    | error fault => exact inductionHypothesis (some fault) tree

end Interaction

namespace Session

variable {session : Session} {output text : Text} {log : List Text}
  {change : List Text → List Text}

def madeVerbose (session : Session) : Session :=
  { session with verbose := true }

theorem fail_mapLog {report : Report} :
    (session.madeVerbose.fail output log report).mapLog change =
      session.fail output (change log) report :=
  rfl

theorem print_mapLog {loud quiet : Text → Interaction}
    (each : ∀ output, (loud output).mapLog change = quiet output) :
    (session.madeVerbose.print output log text loud).mapLog change =
      session.print output (change log) text quiet := by
  have sameEncoding : session.madeVerbose.encoding = session.encoding := rfl
  simp only [print, sameEncoding]
  split_ifs
  · exact each _
  · exact fail_mapLog

end Session

namespace ChartRequest

variable {request : ChartRequest} {session : Session} {change : List Text → List Text}

/-- A request logs what becomes of the records of all skipped lines. -/
theorem deliver_mapLog (setting : ChartSetting) (source : Text)
    (logs : change ((Source.skips source).map Source.Skip.record) = session.log source) :
    (request.deliver setting session.madeVerbose source).mapLog change =
      request.deliver setting session source := by
  have all : change (session.madeVerbose.log source) = session.log source := logs
  have printed (output text : Text) {loud quiet : Text → Interaction}
      (each : ∀ output, (loud output).mapLog change = quiet output) :
      (session.madeVerbose.print output (session.madeVerbose.log source) text loud).mapLog change =
        session.print output (session.log source) text quiet := by
    rw [Session.print_mapLog each, all]
  have same : setting.product session.madeVerbose.now source =
      setting.product session.now source := rfl
  cases made : setting.product session.now source with
  | error fault =>
    by_cases endless : fault = .unending
    · subst endless
      rw [deliver_unending made, deliver_unending (same.trans made), Interaction.mapLog, all]
    · rw [deliver_fault made endless, deliver_fault (same.trans made) endless, Session.fail_mapLog,
        all]
  | ok product =>
    rw [deliver_product made, deliver_product (same.trans made)]
    split_ifs
    · simp only [printProduct]
      cases request.action with
      | convert => exact printed _ _ fun output => by rw [Interaction.mapLog, all]
      | preview => simp only [Interaction.mapLog, all]
    · simp only [store]
      refine printed _ _ fun output => ?_
      simp only [Interaction.mapLog, Interaction.writeFile.injEq, true_and]
      funext result
      cases result with
      | none => exact printed _ _ fun output => by rw [Interaction.mapLog, all]
      | some fault => rw [Session.fail_mapLog, all]

theorem deliver_log {setting : ChartSetting} {source : Text} {input : Bytes} {tree : FileTree} :
    ((request.deliver setting session source).run input tree).1.log = session.log source := by
  have delivers := request.deliver_run setting session source input tree
  generalize (request.deliver setting session source).run input tree = result at delivers ⊢
  generalize setting.product session.now source = product at delivers
  cases delivers <;> rfl

theorem withDecoded_mapLog (nothing : change [] = []) (bytes : Bytes)
    {loud quiet : Text → Interaction}
    (each : ∀ source, (loud source).mapLog change = quiet source) :
    (withDecoded session.madeVerbose bytes loud).mapLog change =
      withDecoded session bytes quiet := by
  simp only [withDecoded]
  cases Text.decodeUtf8 bytes with
  | ok source => exact each _
  | error fault => simp only [Session.fail_mapLog, nothing]

theorem withSource_mapLog (nothing : change [] = []) {loud quiet : Text → Interaction}
    (each : ∀ source, (loud source).mapLog change = quiet source) :
    (request.withSource session.madeVerbose loud).mapLog change =
      request.withSource session quiet := by
  have fails (report : Report) :
      (session.madeVerbose.fail [] [] report).mapLog change = session.fail [] [] report := by
    rw [Session.fail_mapLog, nothing]
  simp only [withSource]
  cases request.input with
  | some name =>
    cases request.text with
    | missing =>
      simp only [Interaction.mapLog, Interaction.checkFile.injEq, true_and]
      funext checked
      cases checked with
      | some fault => exact fails _
      | none =>
        simp only [Interaction.mapLog, Interaction.readFile.injEq, true_and]
        funext found
        cases found with
        | ok bytes => exact withDecoded_mapLog nothing bytes each
        | error fault => exact fails _
    | blank | given => exact fails _
  | none =>
    cases request.text with
    | missing =>
      have sameTerminal : session.madeVerbose.terminal = session.terminal := rfl
      rw [sameTerminal]
      cases session.terminal with
      | true => exact fails _
      | false =>
        simp only [Bool.false_eq_true, if_false, Interaction.mapLog, Interaction.readInput.injEq]
        funext bytes
        exact withDecoded_mapLog nothing bytes each
    | blank => exact fails _
    | given source => exact each source

theorem start_mapLog (nothing : change [] = [])
    (logs : ∀ source, change ((Source.skips source).map Source.Skip.record) = session.log source) :
    (request.start session.madeVerbose).mapLog change = request.start session := by
  simp only [start]
  cases request.setting with
  | error report => simp only [Session.fail_mapLog, nothing]
  | ok setting =>
    exact withSource_mapLog nothing fun source => deliver_mapLog setting source (logs source)

end ChartRequest

/-- The lines of a log on standard error. -/
def Outcome.logLines (outcome : Outcome) : Text :=
  outcome.log.flatMap fun record => record ++ ['\n']

/-- Results that differ at most in their logs, which stand before any report. -/
structure Outcome.SameButLog (result other : Outcome × FileTree) : Prop where
  tree : result.2 = other.2
  exitCode : result.1.exitCode? = other.1.exitCode?
  output : result.1.output = other.1.output
  errors : ∃ report, result.1.errors = result.1.logLines ++ report ∧
    other.1.errors = other.1.logLines ++ report

theorem Interaction.run_mapLog_same (interaction : Interaction) (change : List Text → List Text)
    (input : Bytes) (tree : FileTree) :
    Outcome.SameButLog ((interaction.mapLog change).run input tree)
      (interaction.run input tree) := by
  rw [run_mapLog]
  exact ⟨rfl, rfl, rfl, _, rfl, rfl⟩

namespace Invocation

/-- Whether the arguments can be read and ask for a verbose run. -/
def isVerbose (arguments : List Text) : Bool :=
  match ofArguments arguments with
  | .ok invocation => invocation.verbose
  | .error _ => false

/-- The source that a run parses: its arguments ask for a consistent request, which obtains it. -/
def Parses (arguments : List Text) (environment : Environment) (input : Bytes) (tree : FileTree)
    (source : Text) : Prop :=
  ∃ request setting, Asks arguments request ∧ request.setting = .ok setting ∧
    request.Obtains environment.terminal input tree source

def verboseName : Text :=
  "--verbose".toList

def madeVerbose (invocation : Invocation) : Invocation :=
  { invocation with verbose := true }

theorem start_mapLog (invocation : Invocation) (session : Session)
    (change : List Text → List Text) (nothing : change [] = [])
    (logs : ∀ source, change ((Source.skips source).map Source.Skip.record) = session.log source) :
    (invocation.start session.madeVerbose).mapLog change = invocation.start session := by
  simp only [start]
  cases invocation.command with
  | none => rw [Session.fail_mapLog, nothing]
  | some command =>
    cases command with
    | chart request => exact ChartRequest.start_mapLog nothing logs
    | cheatsheet =>
      simp only [Session.print_taken Encoding.takes_cheatsheet, Interaction.mapLog, nothing]

/-- The options and the command of an invocation are read the same when it is verbose already. -/
theorem set_madeVerbose (invocation : Invocation) (rule : OptionRule GeneralOption)
    (value : Option Text) :
    invocation.madeVerbose.set rule value = (invocation.set rule value).map madeVerbose := by
  simp only [set]
  cases rule.key with
  | help | debug | verbose => rfl
  | errorFormat => cases readFormat rule value <;> rfl

theorem withCommand_madeVerbose (invocation : Invocation) (unrecognized : List Text) (word : Text)
    (arguments : List Text) :
    invocation.madeVerbose.withCommand unrecognized word arguments =
      (invocation.withCommand unrecognized word arguments).map
        (Prod.map madeVerbose id) := by
  simp only [withCommand]
  cases CommandName.ofText? word with
  | none => rfl
  | some name => cases reads : Command.read name arguments <;> simp only [reads] <;> rfl

theorem read_madeVerbose (invocation : Invocation) (unrecognized : List Text)
    (line : CommandLine GeneralOption) :
    invocation.madeVerbose.read unrecognized line =
      (invocation.read unrecognized line).map (Prod.map madeVerbose id) := by
  induction line generalizing invocation unrecognized with
  | finished => rfl
  | faulty fault => rfl
  | option rule value rest inductionHypothesis =>
    simp only [read, set_madeVerbose]
    cases invocation.set rule value with
    | error halt => rfl
    | ok changed => exact inductionHypothesis changed unrecognized
  | unknown argument rest inductionHypothesis =>
    exact inductionHypothesis invocation (unrecognized ++ [argument])
  | operand word following rest => exact withCommand_madeVerbose invocation _ _ _
  | separator following =>
    cases following with
    | nil => rfl
    | cons word words => exact withCommand_madeVerbose invocation _ _ _

/-- The option in front of all arguments makes their invocation verbose, and changes nothing else
about how they are read. -/
theorem ofArguments_verbose (arguments : List Text) :
    ofArguments (verboseName :: arguments) = (ofArguments arguments).map madeVerbose := by
  have names : GeneralOption.table.Names verboseName (.of .verbose ["--verbose"] false) := by
    decide
  have line : ({} : Invocation).read [] (GeneralOption.table.read (verboseName :: arguments)) =
      (({} : Invocation).read [] (GeneralOption.table.read arguments)).map
        (Prod.map madeVerbose id) := by
    rw [← read_madeVerbose, OptionTable.read, OptionTable.read,
      OptionTable.ambiguity?_cons names.unambiguous names.notSeparator]
    cases GeneralOption.table.ambiguity? arguments with
    | some fault => rfl
    | none =>
      simp only [names.readFrom_flag rfl]
      rfl
  rw [ofArguments, ofArguments, line]
  cases ({} : Invocation).read [] (GeneralOption.table.read arguments) with
  | error halt => rfl
  | ok result =>
    obtain ⟨invocation, unrecognized⟩ := result
    cases unrecognized <;> rfl

theorem usageFormat_verbose (arguments : List Text) :
    usageFormat (verboseName :: arguments) = usageFormat arguments := by
  have other : (verboseName != "--error-format".toList) = true := by decide
  rw [usageFormat, List.dropWhile_cons, if_pos other, usageFormat]

theorem isTraced_verbose (arguments : List Text) (environment : Environment) :
    isTraced (verboseName :: arguments) environment = isTraced arguments environment := by
  have other : ("--debug".toList == verboseName) = false := by decide
  rw [isTraced, List.contains_cons, other, Bool.false_or, isTraced]

variable {arguments : List Text} {environment : Environment} {input : Bytes} {tree : FileTree}

theorem asks_verbose {request : ChartRequest} :
    Asks (verboseName :: arguments) request ↔ Asks arguments request := by
  simp only [Asks, ofArguments_verbose]
  constructor
  · rintro ⟨verbose, read, command⟩
    cases alone : ofArguments arguments with
    | error halt =>
      rw [alone] at read
      cases read
    | ok invocation =>
      rw [alone] at read
      cases read
      exact ⟨invocation, rfl, command⟩
  · rintro ⟨invocation, read, command⟩
    exact ⟨invocation.madeVerbose, by rw [read]; rfl, command⟩

theorem parses_verbose {source : Text} :
    Parses (verboseName :: arguments) environment input tree source ↔
      Parses arguments environment input tree source := by
  simp only [Parses, asks_verbose]

theorem isVerbose_of_asks {request : ChartRequest}
    (asks : Asks (verboseName :: arguments) request) :
    isVerbose (verboseName :: arguments) = true := by
  obtain ⟨invocation, read, -⟩ := asks_verbose.1 asks
  simp only [isVerbose, ofArguments_verbose, read]
  rfl

/-- A run is the run with the option in front, whose log is dropped unless it is verbose itself. -/
theorem run_eq_mapLog (given : arguments ≠ []) (environment : Environment) :
    run arguments environment = (run (verboseName :: arguments) environment).mapLog
      fun log => if isVerbose arguments then log else [] := by
  have nonempty : arguments.isEmpty = false := by simpa using given
  simp only [run, nonempty, List.isEmpty_cons, Bool.false_eq_true, if_false, ofArguments_verbose]
  cases read : ofArguments arguments with
  | error halt =>
    have quiet : isVerbose arguments = false := by simp only [isVerbose, read]
    cases halt with
    | help command =>
      simp only [Except.map, Session.print_taken (Encoding.takes_help command), Interaction.mapLog,
        ite_self]
    | usage fault =>
      simp only [Except.map, usageFormat_verbose, failUsage, Interaction.mapLog, ite_self]
  | ok invocation =>
    have loud : isVerbose arguments = invocation.verbose := by simp only [isVerbose, read]
    have session : invocation.madeVerbose.session (verboseName :: arguments) environment =
        (invocation.session arguments environment).madeVerbose := by
      simp only [Invocation.session, isTraced_verbose]
      rfl
    simp only [Except.map, session, loud]
    exact (start_mapLog invocation (invocation.session arguments environment)
      (fun log => if invocation.verbose then log else []) (ite_self _) fun source => rfl).symm

/-- A run that parses a source logs its skipped lines when it is verbose. -/
theorem run_log {source : Text} (parses : Parses arguments environment input tree source) :
    ((run arguments environment).run input tree).1.log =
      if isVerbose arguments then (Source.skips source).map Source.Skip.record else [] := by
  obtain ⟨request, setting, ⟨invocation, read, command⟩, consistent, obtains⟩ := parses
  have loud : isVerbose arguments = invocation.verbose := by simp only [isVerbose, read]
  have obtained : request.Obtains (invocation.session arguments environment).terminal input tree
      source := obtains
  have goesOn := ChartRequest.withSource_obtains obtained
    (request.deliver setting (invocation.session arguments environment))
  rw [run_read read command, ChartRequest.start, loud]
  simp only [consistent]
  rw [goesOn]
  exact ChartRequest.deliver_log

/-- A run that parses nothing logs nothing. -/
theorem run_unlogged (none : ∀ source, ¬Parses arguments environment input tree source) :
    ((run arguments environment).run input tree).1.log = [] := by
  by_cases asked : ∃ request, Asks arguments request
  · obtain ⟨request, invocation, read, command⟩ := asked
    rw [run_read read command, ChartRequest.start]
    cases consistent : request.setting with
    | error report => rfl
    | ok setting =>
      have unobtained : ∀ source, ¬request.Obtains
          (invocation.session arguments environment).terminal input tree source :=
        fun source obtains =>
          none source ⟨request, setting, ⟨invocation, read, command⟩, consistent, obtains⟩
      obtain ⟨report, fails⟩ := ChartRequest.withSource_unobtained unobtained
        (request.deliver setting (invocation.session arguments environment))
      simp only [fails]
      rfl
  · have ends := run_ends arguments environment input tree
    generalize (run arguments environment).run input tree = result at ends ⊢
    cases ends with
    | chart read command => exact absurd ⟨_, _, read, command⟩ asked
    | _ => rfl

/-- A run that is not verbose logs nothing. -/
theorem run_quiet (quiet : isVerbose arguments = false) :
    ((run arguments environment).run input tree).1.log = [] := by
  by_cases parsed : ∃ source, Parses arguments environment input tree source
  · obtain ⟨source, parses⟩ := parsed
    rw [run_log parses, quiet]
    rfl
  · exact run_unlogged (not_exists.1 parsed)

/-- In a new process, an invocation writes its own log and leaves the logger as it was. -/
theorem runLogged_new (arguments : List Text) (environment : Environment) :
    runLogged {} arguments environment = (run arguments environment, {}) := by
  simp only [runLogged, run]
  cases arguments.isEmpty with
  | true => rfl
  | false =>
    cases ofArguments arguments with
    | error halt => rfl
    | ok invocation =>
      have written : ∀ records : List Text,
          (Logger.attach {} invocation.verbose).write records =
            if invocation.verbose then records else [] := by
        intro records
        cases invocation.verbose with
        | false => rfl
        | true => exact List.flatMap_singleton' records
      have restored : (Logger.attach {} invocation.verbose).detach invocation.verbose = {} := by
        cases invocation.verbose <;> rfl
      have own := start_mapLog invocation (invocation.session arguments environment)
        (Logger.attach {} invocation.verbose).write (by rw [written, ite_self]) fun source => by
          rw [written]
          rfl
      simp only [restored]
      exact congrArg (·, ({} : Logger)) own

end Invocation

namespace Call

/-- The outcome of each call in a process of its own, with the files that earlier calls left. There
are no calls after one that never ends. -/
def runEach (tree : FileTree) : List Call → List (Outcome × FileTree)
  | [] => []
  | call :: calls =>
    let result := (Invocation.runLogged {} call.arguments call.environment).1.run call.input tree
    if result.1.exitCode?.isNone then [result] else result :: runEach result.2 calls

/-- The calls of one process do not affect each other's logs, and leave the logger as it was. -/
theorem runAll_new (tree : FileTree) (calls : List Call) :
    (runAll {} tree calls).1 = runEach tree calls ∧
      ∀ logger, (runAll {} tree calls).2 = some logger → logger = {} := by
  induction calls generalizing tree with
  | nil => exact ⟨rfl, fun _ same => (Option.some.inj same).symm⟩
  | cons call calls inductionHypothesis =>
    simp only [runAll, runEach, Invocation.runLogged_new]
    split_ifs
    · exact ⟨rfl, nofun⟩
    · obtain ⟨results, logger⟩ := inductionHypothesis
        ((Invocation.run call.arguments call.environment).run call.input tree).2
      exact ⟨congrArg _ results, logger⟩

/-- Only verbose calls log anything. -/
theorem runEach_log (tree : FileTree) (calls : List Call) :
    List.Forall₂ (fun call result => result.1.log ≠ [] → Invocation.isVerbose call.arguments = true)
      (calls.take (runEach tree calls).length) (runEach tree calls) := by
  induction calls generalizing tree with
  | nil => exact .nil
  | cons call calls inductionHypothesis =>
    have verbose (logged : ((Invocation.runLogged {} call.arguments call.environment).1.run
        call.input tree).1.log ≠ []) : Invocation.isVerbose call.arguments = true := by
      by_contra quiet
      rw [Invocation.runLogged_new] at logged
      exact logged (Invocation.run_quiet (by simpa using quiet))
    simp only [runEach]
    split_ifs
    · exact .cons verbose .nil
    · exact .cons verbose (inductionHypothesis _)

end Call

namespace Invocation

/-- The option for verbose runs in front of other arguments changes no file, no output, no exit code
and no report. It adds the records of the skipped lines when a source is parsed, and nothing
otherwise. No call of a process affects the later ones, and only verbose calls log. -/
theorem verbose_adds_log {arguments : List Text} (given : arguments ≠ [])
    (environment : Environment) (input : Bytes) (tree : FileTree) (calls : List Call) :
    let alone := (runLogged {} arguments environment).1.run input tree
    let verbose := (runLogged {} (verboseName :: arguments) environment).1.run input tree
    Outcome.SameButLog alone verbose ∧
      (isVerbose arguments = true → alone.1.log = verbose.1.log) ∧
      (isVerbose arguments = false → alone.1.log = []) ∧
      (∀ source, Parses arguments environment input tree source →
        verbose.1.log = (Source.skips source).map fun skip =>
          "DEBUG quadrant2drawio.parser: ".toList ++ skip.message) ∧
      ((∀ source, ¬Parses arguments environment input tree source) → verbose.1.log = []) ∧
      (Call.runAll {} tree calls).1 = Call.runEach tree calls ∧
      (∀ logger, (Call.runAll {} tree calls).2 = some logger → logger = {}) ∧
      List.Forall₂
        (fun call result => result.1.log ≠ [] → isVerbose call.arguments = true)
        (calls.take (Call.runAll {} tree calls).1.length) (Call.runAll {} tree calls).1 := by
  intro alone verbose
  have aloneRun : alone = (run arguments environment).run input tree := by
    simp only [alone, runLogged_new]
  have verboseRun : verbose = (run (verboseName :: arguments) environment).run input tree := by
    simp only [verbose, runLogged_new]
  have dropped := run_eq_mapLog given environment
  have log : alone.1.log = if isVerbose arguments then verbose.1.log else [] := by
    rw [aloneRun, dropped, Interaction.run_mapLog, verboseRun]
  obtain ⟨each, logger⟩ := Call.runAll_new tree calls
  refine ⟨?_, ?_, ?_, ?_, ?_, each, logger, ?_⟩
  · rw [aloneRun, dropped, verboseRun]
    exact Interaction.run_mapLog_same _ _ input tree
  · intro loud
    rw [log, if_pos loud]
  · intro quiet
    rw [aloneRun, run_quiet quiet]
  · intro source parses
    have parsesVerbose := parses_verbose.2 parses
    obtain ⟨request, -, asks, -⟩ := parsesVerbose
    rw [verboseRun, run_log (parses_verbose.2 parses), isVerbose_of_asks asks]
    rfl
  · intro none
    rw [verboseRun]
    exact run_unlogged fun source parses => none source (parses_verbose.1 parses)
  · rw [each]
    exact Call.runEach_log tree calls

/-- One line of a source is skipped, and a verbose run comes before a quiet one. -/
theorem verbose_adds_log_skippedLine :
    let arguments := ["convert".toList, "--text=note".toList, "--stdout".toList]
    let environment : Environment := { now := ⟨⟨2024, 5, 1⟩, 12, 30, 45, 123456, none⟩ }
    let calls : List Call :=
      [⟨verboseName :: arguments, environment, []⟩, ⟨arguments, environment, []⟩]
    arguments ≠ [] ∧
      ((runLogged {} (verboseName :: arguments) environment).1.run [] ⟨[], []⟩).1.log =
        ["DEBUG quadrant2drawio.parser: ignored unrecognized line 1: 'note'".toList] ∧
      (Call.runAll {} ⟨[], []⟩ calls).1 = Call.runEach ⟨[], []⟩ calls := by
  intro arguments environment calls
  have given : arguments ≠ [] := by decide
  obtain ⟨-, -, -, parsed, -, each, -⟩ := verbose_adds_log given environment [] ⟨[], []⟩ calls
  let request : ChartRequest :=
    { action := .convert, text := .given "note".toList, prints := true }
  have asks : Asks arguments request :=
    ⟨{ command := some (.chart request) }, by decide +kernel, rfl⟩
  have parses : Parses arguments environment [] ⟨[], []⟩ "note".toList :=
    ⟨request, ⟨.convert, .double 1, {}⟩, asks, by decide +kernel, .option rfl rfl,
      fun _ missing => by cases missing⟩
  have skipped : (Source.skips "note".toList).map (fun skip =>
      "DEBUG quadrant2drawio.parser: ".toList ++ skip.message) =
        ["DEBUG quadrant2drawio.parser: ignored unrecognized line 1: 'note'".toList] := by
    decide +kernel
  exact ⟨given, (parsed _ parses).trans skipped, each⟩

end Invocation

end QuadrantChart
