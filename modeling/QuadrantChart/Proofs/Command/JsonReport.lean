/-
This file proves when a run that fails reports in JSON, and that its report is then one line from
which the failure can be read.
-/

import QuadrantChart.Proofs.Command.Accounted
import QuadrantChart.Proofs.Command.Arguments
import QuadrantChart.Proofs.Json.ReadWritten

namespace QuadrantChart

theorem ReportFormat.ofText?_eq_some {word : Text} {format : ReportFormat} :
    ofText? word = some format ↔ word = format.text := by
  constructor
  · intro found
    have same := List.find?_some found
    exact (of_decide_eq_true same).symm
  · rintro rfl
    cases format <;> decide

namespace Invocation

/-- The name of the option for the format of reports. -/
def formatName : Text :=
  "--error-format".toList

/-- The arguments select reports in JSON: by their format when they can be read, and otherwise by
the argument right behind the first name of the format option that stands alone. -/
inductive SelectsJson (arguments : List Text) : Prop where
  | read {invocation : Invocation} (read : ofArguments arguments = .ok invocation)
      (json : invocation.format = .json)
  | refused {fault : UsageFault} {before after : List Text}
      (unusable : ofArguments arguments = .error (.usage fault))
      (parts : arguments = before ++ formatName :: "json".toList :: after)
      (first : formatName ∉ before)

theorem usageFormat_eq (arguments : List Text) :
    usageFormat arguments = match arguments.dropWhile (· != formatName) with
      | _ :: word :: _ => (ReportFormat.ofText? word).getD .plain
      | _ => .plain :=
  rfl

theorem usageFormat_json (arguments : List Text) :
    usageFormat arguments = .json ↔ ∃ before after,
      arguments = before ++ formatName :: "json".toList :: after ∧ formatName ∉ before := by
  constructor
  · intro json
    have parts := List.takeWhile_append_dropWhile (p := (· != formatName)) (l := arguments)
    have first : formatName ∉ arguments.takeWhile (· != formatName) := by
      intro member
      simpa using List.mem_takeWhile_imp member
    rw [usageFormat_eq] at json
    split at json
    · next name word after rest =>
      have found : name = formatName := by
        have stops := List.head?_dropWhile_not (· != formatName) arguments
        rw [rest] at stops
        simpa using stops
      have chosen : ReportFormat.ofText? word = some .json := by
        cases choice : ReportFormat.ofText? word with
        | none => rw [choice] at json; cases json
        | some format => rw [choice] at json; exact congrArg some json
      rw [rest, found, ReportFormat.ofText?_eq_some.1 chosen] at parts
      exact ⟨_, after, parts.symm, first⟩
    · cases json
  · rintro ⟨before, after, rfl, first⟩
    have skipped : (before ++ formatName :: "json".toList :: after).dropWhile (· != formatName) =
        formatName :: "json".toList :: after := by
      rw [List.dropWhile_append_of_pos]
      · simp
      · intro word member
        have apart : word ≠ formatName := fun equal => first (equal ▸ member)
        simpa using apart
    have chosen : ReportFormat.ofText? "json".toList = some .json :=
      ReportFormat.ofText?_eq_some.2 rfl
    rw [usageFormat_eq, skipped]
    simp only [chosen, Option.getD_some]

variable {arguments : List Text} {environment : Environment} {input : Bytes} {tree : FileTree}

theorem selectsJson_read {invocation : Invocation}
    (read : ofArguments arguments = .ok invocation) :
    SelectsJson arguments ↔ invocation.format = .json := by
  constructor
  · rintro (⟨same, json⟩ | ⟨unusable⟩)
    · cases read.symm.trans same
      exact json
    · cases read.symm.trans unusable
  · exact .read read

theorem selectsJson_refused {fault : UsageFault}
    (unusable : ofArguments arguments = .error (.usage fault)) :
    SelectsJson arguments ↔ usageFormat arguments = .json := by
  rw [usageFormat_json]
  constructor
  · rintro (⟨read⟩ | ⟨-, parts, first⟩)
    · cases unusable.symm.trans read
    · exact ⟨_, _, parts, first⟩
  · rintro ⟨before, after, parts, first⟩
    exact .refused unusable parts first

/-- A failure is reported in JSON exactly when the arguments select it. -/
theorem Ends.format_json {result : Outcome × FileTree}
    (ends : Ends arguments environment input tree result) {failure : Failure}
    (failed : result.1.ending = .failed failure) :
    failure.format = .json ↔ SelectsJson arguments := by
  cases ends with
  | empty none =>
    cases failed
    have read : ofArguments arguments = .ok {} := by rw [none]; rfl
    exact (selectsJson_read read).symm
  | refused unusable =>
    cases failed
    exact (selectsJson_refused unusable).symm
  | missing read =>
    cases failed
    exact (selectsJson_read read).symm
  | help | cheatsheet => cases failed
  | chart read command ends =>
    cases ends with
    | refused =>
      cases failed
      exact (selectsJson_read read).symm
    | delivered produces delivers =>
      cases delivers with
      | endless | printed | stored => cases failed
      | unmade | unprinted | unstored | untold =>
        cases failed
        exact (selectsJson_read read).symm

/-- The one-argument spelling of the format option is read like the two-argument one. -/
theorem ofArguments_formatJson (arguments : List Text) :
    ofArguments ((formatName ++ '=' :: "json".toList) :: arguments) =
      ofArguments (formatName :: "json".toList :: arguments) := by
  have proper : GeneralOption.table.Proper := by decide
  have names : GeneralOption.table.Names formatName
      (.of .errorFormat ["--error-format"] true) := by
    decide
  have operand : IsOperand "json".toList := by decide
  have word : GeneralOption.table.Unambiguous "json".toList :=
    OptionTable.unambiguous_operand operand
  have attached := names.unambiguous_attached proper "json".toList
  have line : GeneralOption.table.read ((formatName ++ '=' :: "json".toList) :: arguments) =
      GeneralOption.table.read (formatName :: "json".toList :: arguments) := by
    rw [OptionTable.read, OptionTable.read, OptionTable.ambiguity?_cons attached (by decide),
      OptionTable.ambiguity?_cons names.unambiguous names.notSeparator,
      OptionTable.ambiguity?_cons word (by decide), names.readFrom_attached proper rfl,
      names.readFrom_value rfl operand, CommandLine.valueOf, if_neg (by decide)]
  rw [ofArguments, line, ofArguments]

/-- By itself, the one-argument spelling selects JSON only if the arguments can be read. -/
theorem selectsJson_attached {arguments : List Text} (alone : formatName ∉ arguments) :
    SelectsJson ((formatName ++ '=' :: "json".toList) :: arguments) ↔
      ∃ invocation, ofArguments (formatName :: "json".toList :: arguments) = .ok invocation ∧
        invocation.format = .json := by
  constructor
  · rintro (⟨read, json⟩ | ⟨-, parts, -⟩)
    · exact ⟨_, (ofArguments_formatJson arguments).symm.trans read, json⟩
    · have member : formatName ∈ (formatName ++ '=' :: "json".toList) :: arguments := by
        rw [parts]
        simp
      rcases List.mem_cons.1 member with same | within
      · exact absurd same (by decide)
      · exact absurd within alone
  · rintro ⟨invocation, read, json⟩
    exact .read ((ofArguments_formatJson arguments).trans read) json

/-- A run that fails reports its failure between its log and a trace. If its arguments select JSON,
the report is one line that reads as an object with all that is known of the failure. Otherwise it
is plain text. -/
theorem run_reports_json (arguments : List Text) (environment : Environment) (input : Bytes)
    (tree : FileTree) {code : Nat}
    (ended : ((run arguments environment).run input tree).1.exitCode? = some code)
    (fails : code ≠ 0) :
    ∃ log failure trace,
      MayLog arguments input tree log ∧
      ((run arguments environment).run input tree).1.failure? = some failure ∧
      (trace = [] ∨ trace = Failure.trace ∧ isTraced arguments environment = true) ∧
      (SelectsJson arguments → ∃ line,
        ((run arguments environment).run input tree).1.errors =
          (log.flatMap fun record => record ++ ['\n']) ++ (line ++ ['\n']) ++ trace ∧
        '\n' ∉ line ∧
        Json.object? line = some
          [("ok".toList, .boolean false), ("code".toList, .text failure.report.code.text),
            ("message".toList, .text failure.report.message),
            ("file".toList, Json.ofOption failure.report.file),
            ("hint".toList, Json.ofOption failure.report.hint)]) ∧
      (¬SelectsJson arguments →
        ((run arguments environment).run input tree).1.errors =
          (log.flatMap fun record => record ++ ['\n']) ++ failure.report.plain ++ trace) := by
  have ends := run_ends arguments environment input tree
  generalize (run arguments environment).run input tree = result at ends ended ⊢
  obtain ⟨failure, failed, -⟩ := Outcome.exitCode?_nonzero ended fails
  obtain ⟨trace, errors, traced⟩ := ends.errors failed
  have selected := ends.format_json failed
  refine ⟨result.1.log, failure, trace, ends.mayLog, Outcome.failure?_some.2 failed, traced,
    fun selects => ?_, fun plain => ?_⟩
  · refine ⟨failure.report.line, ?_, failure.report.line_oneLine, failure.report.object?_line⟩
    rw [errors, selected.2 selects, Report.written, Report.json_eq]
  · cases format : failure.format with
    | plain => rw [errors, format, Report.written]
    | json => exact absurd (selected.1 format) plain

/-- A source that is missing is reported in one line of JSON. -/
theorem run_reports_json_missingSource :
    let arguments := ["--error-format=json", "convert", "chart.mmd"].map String.toList
    let environment : Environment := { now := ⟨⟨2024, 5, 1⟩, 12, 30, 45, 123456, none⟩ }
    let tree : FileTree := ⟨[], []⟩
    (((run arguments environment).run [] tree).1.exitCode? = some 2 ∧ SelectsJson arguments) ∧
      ∃ line, line ++ ['\n'] <:+: ((run arguments environment).run [] tree).1.errors ∧
        '\n' ∉ line ∧
        Json.object? line = some
          [("ok".toList, .boolean false), ("code".toList, .text "E_IO_READ".toList),
            ("message".toList, .text "input file not found: chart.mmd".toList),
            ("file".toList, .text "chart.mmd".toList), ("hint".toList, .null)] := by
  intro arguments environment tree
  have ended : ((run arguments environment).run [] tree).1.exitCode? = some 2 := by decide +kernel
  have read : ofArguments arguments = .ok
      { format := .json
        command := some (.chart { action := .convert, input := some "chart.mmd".toList }) } := by
    decide +kernel
  have selects : SelectsJson arguments := .read read rfl
  obtain ⟨log, failure, trace, -, failed, -, json, -⟩ :=
    run_reports_json arguments environment [] tree ended (by decide)
  obtain ⟨line, errors, oneLine, members⟩ := json selects
  have missing : ((run arguments environment).run [] tree).1.failure? = some
      ⟨.ofCheck (.ofText "chart.mmd".toList) .missing, .json, false⟩ := by
    decide +kernel
  cases failed.symm.trans missing
  exact ⟨⟨ended, selects⟩, line, ⟨_, trace, errors.symm⟩, oneLine, members⟩

/-- The one-argument spelling selects JSON for arguments that can be read. It does not for others,
which are reported on two lines of plain text. -/
theorem run_plain_attachedFormat :
    let environment : Environment := { now := ⟨⟨2024, 5, 1⟩, 12, 30, 45, 123456, none⟩ }
    let result (arguments : List String) :=
      ((run (arguments.map String.toList) environment).run [] ⟨[], []⟩).1
    ofArguments (["--error-format=json", "cheatsheet"].map String.toList) =
        .ok { format := .json, command := some .cheatsheet } ∧
      (result ["--error-format=json", "bogus"]).exitCode? = some 2 ∧
      (result ["--error-format=json", "bogus"]).log = [] ∧
      Json.object? (result ["--error-format=json", "bogus"]).errors = none ∧
      (result ["--error-format=json", "bogus"]).errors.count '\n' = 2 ∧
      "error[E_ARGS]: ".toList <+: (result ["--error-format=json", "bogus"]).errors := by
  decide +kernel

end Invocation

end QuadrantChart
