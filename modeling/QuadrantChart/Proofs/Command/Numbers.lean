/-
This file says which numbers the requests of an invocation have.
-/

import QuadrantChart.Proofs.Command.Ending
import QuadrantChart.Proofs.Layout.Placement
import QuadrantChart.Proofs.Number.Range

namespace QuadrantChart

/-- The numbers of a request that arguments ask for. The scale is a floating point number, and the
dimensions are floating point numbers or small integers. -/
structure ChartRequest.IsNumeric (request : ChartRequest) : Prop where
  scale : ∀ number, request.scale = some number → number.IsDouble
  canvasSize : ∀ number, request.canvasSize = some number → number.Within (2 ^ 50)
  padding : ∀ number, request.padding = some number → number.Within (2 ^ 50)

theorem readNumber_isDouble {Key : Type} {rule : OptionRule Key} {value : Option Text}
    {result : Option Number} (read : readNumber rule value = .ok result) :
    ∀ number, result = some number → number.IsDouble := by
  rintro number rfl
  cases value with
  | none => cases read
  | some text =>
    rw [readNumber] at read
    split at read
    · cases read
      exact ⟨_, rfl⟩
    · cases read

theorem Number.IsDouble.within {number : Number} (isDouble : number.IsDouble) (limit : Nat) :
    number.Within limit := by
  obtain ⟨value, rfl⟩ := isDouble
  exact within_double limit value

namespace ChartRequest

variable {request changed : ChartRequest}

theorem default_isNumeric (action : ChartAction) : ({ action } : ChartRequest).IsNumeric where
  scale := by
    rintro _ ⟨⟩
    exact ⟨1, rfl⟩
  canvasSize := by
    rintro _ ⟨⟩
    exact Number.within_integer (by decide)
  padding := by
    rintro _ ⟨⟩
    exact Number.within_integer (by decide)

theorem IsNumeric.withInput (isNumeric : request.IsNumeric) (input : Text) :
    (request.withInput input).IsNumeric :=
  ⟨isNumeric.scale, isNumeric.canvasSize, isNumeric.padding⟩

/-- An option only sets numbers that have been read. -/
theorem IsNumeric.set (isNumeric : request.IsNumeric) {rule : OptionRule ChartOption}
    {value : Option Text} (set : request.set rule value = .ok changed) : changed.IsNumeric := by
  obtain ⟨scale, canvasSize, padding⟩ := isNumeric
  rw [ChartRequest.set] at set
  cases key : rule.key with
  | help =>
    rw [key] at set
    cases set
  | text | stdout | output =>
    rw [key] at set
    cases set
    exact ⟨scale, canvasSize, padding⟩
  | scale =>
    rw [key] at set
    obtain ⟨read, reads, ⟨⟩⟩ := Result.bind_ok.1 set
    exact ⟨readNumber_isDouble reads, canvasSize, padding⟩
  | canvasSize =>
    rw [key] at set
    obtain ⟨read, reads, ⟨⟩⟩ := Result.bind_ok.1 set
    exact ⟨scale, fun number given => (readNumber_isDouble reads number given).within _, padding⟩
  | padding =>
    rw [key] at set
    obtain ⟨read, reads, ⟨⟩⟩ := Result.bind_ok.1 set
    exact ⟨scale, canvasSize, fun number given => (readNumber_isDouble reads number given).within _⟩

/-- A command line only sets numbers that have been read. -/
theorem IsNumeric.read {line : CommandLine ChartOption} {hasInput : Bool}
    {unrecognized others : List Text} (isNumeric : request.IsNumeric)
    (read : request.read hasInput unrecognized line = .ok (changed, others)) :
    changed.IsNumeric := by
  induction line generalizing request hasInput unrecognized with
  | finished =>
    cases read
    exact isNumeric
  | faulty fault => cases read
  | option rule value rest inductionHypothesis =>
    obtain ⟨next, set, reads⟩ := Result.bind_ok.1 read
    exact inductionHypothesis (isNumeric.set set) reads
  | unknown argument rest inductionHypothesis => exact inductionHypothesis isNumeric read
  | operand argument following rest inductionHypothesis =>
    unfold ChartRequest.read at read
    split_ifs at read
    · exact inductionHypothesis isNumeric read
    · split at read
      · cases read
        exact isNumeric.withInput argument
      · exact inductionHypothesis (isNumeric.withInput argument) read
  | separator following =>
    unfold ChartRequest.read at read
    split_ifs at read
    · cases read
      exact isNumeric
    · cases following with
      | nil =>
        cases read
        exact isNumeric
      | cons input rest =>
        cases read
        exact isNumeric.withInput input

end ChartRequest

namespace Invocation

/-- An invocation whose command is numeric when it is a chart command. -/
def IsNumeric (invocation : Invocation) : Prop :=
  ∀ request, invocation.command = some (.chart request) → request.IsNumeric

variable {invocation changed : Invocation}

theorem IsNumeric.set (isNumeric : invocation.IsNumeric) {rule : OptionRule GeneralOption}
    {value : Option Text} (set : invocation.set rule value = .ok changed) : changed.IsNumeric := by
  rw [Invocation.set] at set
  cases key : rule.key with
  | help =>
    rw [key] at set
    cases set
  | errorFormat =>
    rw [key] at set
    obtain ⟨format, -, ⟨⟩⟩ := Result.bind_ok.1 set
    exact isNumeric
  | debug | verbose =>
    rw [key] at set
    cases set
    exact isNumeric

theorem withCommand_isNumeric {unrecognized others arguments : List Text} {word : Text}
    (read : invocation.withCommand unrecognized word arguments = .ok (changed, others)) :
    changed.IsNumeric := by
  have chart (action : ChartAction) {command : Command} {more : List Text}
      (reads : Command.read.chart arguments action = .ok (command, more)) :
      ∀ request, command = .chart request → request.IsNumeric := by
    obtain ⟨⟨request, unknown⟩, line, equal⟩ := Result.bind_ok.1 reads
    cases equal
    rintro _ ⟨⟩
    exact (ChartRequest.default_isNumeric action).read line
  rw [withCommand] at read
  split at read
  · cases read
  · next name _ =>
    obtain ⟨⟨command, more⟩, reads, equal⟩ := Result.bind_ok.1 read
    cases equal
    rintro request ⟨⟩
    cases name with
    | convert => exact chart .convert reads request rfl
    | preview => exact chart .preview reads request rfl
    | cheatsheet =>
      obtain ⟨_, -, equal⟩ := Result.bind_ok.1 reads
      cases equal

theorem IsNumeric.read {line : CommandLine GeneralOption} {unrecognized others : List Text}
    (isNumeric : invocation.IsNumeric)
    (read : invocation.read unrecognized line = .ok (changed, others)) : changed.IsNumeric := by
  induction line generalizing invocation unrecognized with
  | finished =>
    cases read
    exact isNumeric
  | faulty fault => cases read
  | option rule value rest inductionHypothesis =>
    obtain ⟨next, set, reads⟩ := Result.bind_ok.1 read
    exact inductionHypothesis (isNumeric.set set) reads
  | unknown argument rest inductionHypothesis => exact inductionHypothesis isNumeric read
  | operand word following rest => exact withCommand_isNumeric read
  | separator following =>
    cases following with
    | nil =>
      cases read
      exact isNumeric
    | cons word words => exact withCommand_isNumeric read

/-- The numbers of a request come from its options or are the usual ones. -/
theorem asks_isNumeric {arguments : List Text} {request : ChartRequest}
    (asks : Asks arguments request) : request.IsNumeric := by
  obtain ⟨invocation, read, command⟩ := asks
  obtain ⟨⟨made, unrecognized⟩, reads, recognized⟩ := Result.bind_ok.1 read
  have none : ({} : Invocation).IsNumeric := fun _ missing => nomatch missing
  simp only at recognized
  split_ifs at recognized
  cases recognized
  exact none.read reads request command

/-- The layout of a consistent request is valid and has no large integers. -/
theorem asks_moderate {arguments : List Text} {request : ChartRequest} {setting : ChartSetting}
    (asks : Asks arguments request) (consistent : request.setting = .ok setting) :
    setting.config.validate = .ok () ∧ setting.config.Moderate := by
  have numeric := asks_isNumeric asks
  obtain ⟨-, -, configured⟩ := ChartRequest.setting_ok consistent
  obtain ⟨canvasSize, padding, size, space, config, valid⟩ := ChartRequest.readConfig_ok configured
  refine ⟨valid, ?_⟩
  rw [config]
  exact LayoutConfig.moderate_of_within (numeric.canvasSize _ size) (numeric.padding _ space)

end Invocation

end QuadrantChart
