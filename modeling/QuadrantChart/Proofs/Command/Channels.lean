/-
This file says where the source of a conversion comes from and where its document goes, and proves
that the arguments which say so are read as they are meant.
-/

import QuadrantChart.Proofs.Command.Arguments
import QuadrantChart.Proofs.Command.Ending

namespace QuadrantChart

/-- A numeral with the number that it reads as. -/
structure WrittenNumber where
  text : Text
  value : Binary64
  reads : Numeral.read? text = some value

/-- Where the source of a conversion is. -/
inductive SourceChannel where
  | file (name : Text)
  | option
  | standardInput

/-- Where the document of a conversion goes. -/
inductive DocumentChannel where
  | standardOutput
  | file (name : Text)
  | usualFile

/-- The usual layout with the dimensions that are given. -/
def givenLayout (canvasSize padding : Option WrittenNumber) : LayoutConfig where
  canvasSize := canvasSize.elim ({} : LayoutConfig).canvasSize fun number => .double number.value
  padding := padding.elim ({} : LayoutConfig).padding fun number => .double number.value

/-- A conversion with its channels, and with the dimensions that are given. -/
structure Conversion where
  source : SourceChannel
  document : DocumentChannel
  canvasSize : Option WrittenNumber
  padding : Option WrittenNumber

namespace SourceChannel

/-- The arguments that give a source in a channel. -/
def arguments (channel : SourceChannel) (source : Text) : List Text :=
  match channel with
  | .file name => [name]
  | .option => ["--text".toList ++ '=' :: source]
  | .standardInput => []

/-- Arguments that are read as they are meant. A separator as the text of an option is not. -/
def Spells (channel : SourceChannel) (source : Text) : Prop :=
  match channel with
  | .file name => name ≠ [] ∧ IsOperand name
  | .option => source ≠ CommandLine.separatorText
  | .standardInput => True

/-- A channel that carries a source, in UTF-8 unless it is an option. -/
def Carries (channel : SourceChannel) (source : Text) (environment : Environment) (input : Bytes)
    (tree : FileTree) : Prop :=
  match channel with
  | .file name => tree.read (.ofText name) = .ok (Text.encodeUtf8 source)
  | .option => True
  | .standardInput => environment.terminal = false ∧ input = Text.encodeUtf8 source

end SourceChannel

namespace DocumentChannel

def arguments : DocumentChannel → List Text
  | .standardOutput => ["--stdout".toList]
  | .file name => ["-o".toList, name]
  | .usualFile => []

def IsSpelled : DocumentChannel → Prop
  | .file name => name ≠ [] ∧ IsOperand name
  | _ => True

/-- The path of the file that a document is stored in, unless it is printed. -/
def path? : DocumentChannel → Option Path
  | .standardOutput => none
  | .file name => some (.ofText name)
  | .usualFile => some (.ofText "chart.drawio".toList)

/-- A run that succeeds and prints a document and touches no file, or that stores its UTF-8 where a
file can be written. The standard output has to take the document, or the path to succeed. -/
def Receives (channel : DocumentChannel) (document : Text) (encoding : Encoding)
    (before : FileTree) (result : Outcome × FileTree) : Prop :=
  match channel.path? with
  | none => encoding.takes document = true →
      result.1.exitCode? = some 0 ∧ result.1.output = document ∧ result.2 = before
  | some path => ∀ after, before.write path (Text.encodeUtf8 document) = .ok after →
      (encoding.takes path.written = true → result.1.exitCode? = some 0) ∧ result.2 = after ∧
        after.Stores path (Text.encodeUtf8 document)

end DocumentChannel

namespace Conversion

def numberArguments (name : String) (number : Option WrittenNumber) : List Text :=
  number.toList.map fun number => name.toList ++ '=' :: number.text

/-- The arguments of a conversion: its source, its dimensions, and where its document goes. -/
def arguments (conversion : Conversion) (source : Text) : List Text :=
  "convert".toList :: (conversion.source.arguments source ++
    (numberArguments "--canvas-size" conversion.canvasSize ++
      (numberArguments "--padding" conversion.padding ++ conversion.document.arguments)))

def config (conversion : Conversion) : LayoutConfig :=
  givenLayout conversion.canvasSize conversion.padding

def request (conversion : Conversion) (source : Text) : ChartRequest where
  action := .convert
  input := match conversion.source with
    | .file name => some name
    | _ => none
  text := match conversion.source with
    | .option => .given source
    | _ => .missing
  prints := match conversion.document with
    | .standardOutput => true
    | _ => false
  output := match conversion.document with
    | .file name => some name
    | _ => none
  canvasSize := some conversion.config.canvasSize
  padding := some conversion.config.padding

end Conversion

theorem WrittenNumber.notSeparator (number : WrittenNumber) :
    number.text ≠ CommandLine.separatorText := by
  intro separator
  have none : Numeral.read? CommandLine.separatorText = none := by decide +kernel
  rw [← separator, number.reads] at none
  cases none

theorem readNumber_written {Key : Type} (rule : OptionRule Key) (number : WrittenNumber) :
    readNumber rule (some number.text) = .ok (some (.double number.value)) := by
  simp only [readNumber, number.reads]

theorem nonempty?_some {text : Text} (nonempty : text ≠ []) : nonempty? text = some text := by
  rw [nonempty?, if_neg (by simpa using nonempty)]

namespace Conversion

/-- The arguments behind those of the source. -/
def options (conversion : Conversion) : List Text :=
  numberArguments "--canvas-size" conversion.canvasSize ++
    (numberArguments "--padding" conversion.padding ++ conversion.document.arguments)

/-- The names that the options of a conversion are given by. -/
inductive GivenBy : Text → OptionRule ChartOption → Prop where
  | text : GivenBy "--text".toList (.of .text ["--text"] true)
  | canvasSize : GivenBy "--canvas-size".toList (.of .canvasSize ["--canvas-size"] true)
  | padding : GivenBy "--padding".toList (.of .padding ["--padding"] true)
  | stdout : GivenBy "--stdout".toList (.of .stdout ["--stdout"] false)
  | output : GivenBy "-o".toList (.of .output ["-o", "--output"] true)

theorem GivenBy.names {name : Text} {rule : OptionRule ChartOption} (given : GivenBy name rule) :
    (ChartOption.table .convert).Names name rule := by
  cases given <;> decide

variable {request : ChartRequest} {hasInput : Bool} {following : List Text}

theorem numberArguments_some (name : String) (number : WrittenNumber) :
    numberArguments name (some number) = [name.toList ++ '=' :: number.text] :=
  rfl

/-- A number that is given replaces the current one. -/
theorem read_number {name : String} {rule : OptionRule ChartOption}
    (given : GivenBy name.toList rule) (takesValue : rule.takesValue = true)
    (change : Option Number → ChartRequest) (current : Option Number)
    (keeps : change current = request)
    (sets : ∀ value, request.set rule value = (readNumber rule value).map change)
    (number : Option WrittenNumber) :
    request.read hasInput [] ((ChartOption.table .convert).readFrom
        (numberArguments name number ++ following)) =
      (change (number.elim current fun number => some (.double number.value))).read hasInput []
        ((ChartOption.table .convert).readFrom following) := by
  cases number with
  | none => rw [Option.elim_none, keeps]; rfl
  | some number =>
    rw [numberArguments_some, List.singleton_append,
      ChartRequest.read_attached given.names takesValue number.notSeparator, sets,
      readNumber_written]
    rfl

/-- What becomes of a request when the place of the document is read. -/
def withDocument (request : ChartRequest) : DocumentChannel → ChartRequest
  | .standardOutput => { request with prints := true }
  | .file name => { request with output := some name }
  | .usualFile => request

theorem read_document {channel : DocumentChannel} (isSpelled : channel.IsSpelled) :
    request.read hasInput [] ((ChartOption.table .convert).readFrom channel.arguments) =
      .ok (withDocument request channel, []) := by
  cases channel with
  | standardOutput =>
    exact ChartRequest.read_flag GivenBy.stdout.names rfl
  | file name =>
    refine (ChartRequest.read_value GivenBy.output.names rfl isSpelled.2).trans ?_
    simp only [ChartRequest.set, OptionRule.of, Option.bind_some, nonempty?_some isSpelled.1]
    rfl
  | usualFile => rfl

variable {conversion : Conversion} {source : Text}

/-- The options of a conversion are read as they are meant. -/
theorem read_options (isSpelled : conversion.document.IsSpelled) :
    request.read hasInput [] ((ChartOption.table .convert).readFrom conversion.options) =
      .ok (withDocument { request with
        canvasSize := conversion.canvasSize.elim request.canvasSize fun number =>
          some (.double number.value)
        padding := conversion.padding.elim request.padding fun number =>
          some (.double number.value) } conversion.document, []) := by
  rw [options,
    read_number .canvasSize rfl (fun number => { request with canvasSize := number }) _ rfl
      fun value => rfl,
    read_number .padding rfl (fun number => { request with
      canvasSize := conversion.canvasSize.elim request.canvasSize fun number =>
        some (.double number.value)
      padding := number }) _ rfl fun value => rfl,
    read_document isSpelled]

/-- No option is a separator. -/
theorem options_noSeparator (isSpelled : conversion.document.IsSpelled) (others : List Text) :
    (ChartOption.table .convert).readFrom conversion.options ≠ .separator others := by
  have proper := ChartOption.table_proper .convert
  intro separator
  rcases conversion with ⟨channel, document, _ | size, _ | space⟩
  · cases document with
    | standardOutput =>
      exact nomatch (GivenBy.stdout.names.readFrom_flag rfl).symm.trans separator
    | file name =>
      exact nomatch (GivenBy.output.names.readFrom_value rfl isSpelled.2).symm.trans separator
    | usualFile => cases separator
  · exact nomatch (GivenBy.padding.names.readFrom_attached proper rfl).symm.trans separator
  · exact nomatch (GivenBy.canvasSize.names.readFrom_attached proper rfl).symm.trans separator
  · exact nomatch (GivenBy.canvasSize.names.readFrom_attached proper rfl).symm.trans separator

/-- The arguments of a conversion are read as its request. -/
theorem read_arguments (spells : conversion.source.Spells source)
    (isSpelled : conversion.document.IsSpelled) :
    ({ action := .convert } : ChartRequest).read false [] ((ChartOption.table .convert).readFrom
      (conversion.source.arguments source ++ conversion.options)) =
        .ok (conversion.request source, []) := by
  have complete (request : ChartRequest) (hasInput : Bool)
      (given : withDocument { request with
        canvasSize := conversion.canvasSize.elim request.canvasSize fun number =>
          some (.double number.value)
        padding := conversion.padding.elim request.padding fun number =>
          some (.double number.value) } conversion.document = conversion.request source) :
      request.read hasInput [] ((ChartOption.table .convert).readFrom conversion.options) =
        .ok (conversion.request source, []) := by
    rw [read_options isSpelled, given]
  obtain ⟨channel, document, canvasSize, padding⟩ := conversion
  cases channel with
  | file name =>
    refine (ChartRequest.read_input spells.2 spells.1 (options_noSeparator isSpelled)).trans ?_
    apply complete
    cases document <;> cases canvasSize <;> cases padding <;> rfl
  | option =>
    refine (ChartRequest.read_attached GivenBy.text.names rfl spells).trans ?_
    apply complete
    cases document <;> cases canvasSize <;> cases padding <;> rfl
  | standardInput =>
    apply complete
    cases document <;> cases canvasSize <;> cases padding <;> rfl

/-- An argument that is unambiguous in both tables. -/
def IsPlain (argument : Text) : Prop :=
  GeneralOption.table.Unambiguous argument ∧ (ChartOption.table .convert).Unambiguous argument

theorem plain_operand {argument : Text} (operand : IsOperand argument) : IsPlain argument :=
  ⟨OptionTable.unambiguous_operand operand, OptionTable.unambiguous_operand operand⟩

theorem plain_name {name : Text} {rule : OptionRule ChartOption} (given : GivenBy name rule) :
    IsPlain name := by
  have foreign : GeneralOption.table.possibleUses name = [] := by cases given <;> decide
  exact ⟨OptionTable.unambiguous_foreign foreign, given.names.unambiguous⟩

theorem plain_attached {name : Text} {rule : OptionRule ChartOption} (given : GivenBy name rule)
    (long : "--".toList <+: name) (value : Text) : IsPlain (name ++ '=' :: value) := by
  have foreign :
      GeneralOption.table.named.filter (fun (other, _) => name.isPrefixOf other) = [] := by
    cases given <;> decide
  obtain ⟨rest, parts⟩ := long
  have none := OptionTable.possibleUses_attached ⟨rest, parts.symm⟩ given.names.clean foreign value
  exact ⟨OptionTable.unambiguous_foreign none,
    given.names.unambiguous_attached (ChartOption.table_proper .convert) value⟩

theorem plain_number {name : String} {rule : OptionRule ChartOption}
    (given : GivenBy name.toList rule) (long : "--".toList <+: name.toList)
    (number : Option WrittenNumber) :
    ∀ argument ∈ numberArguments name number, IsPlain argument := by
  cases number with
  | none => simp [numberArguments]
  | some number => exact List.forall_mem_singleton.2 (plain_attached given long number.text)

theorem plain_arguments (spells : conversion.source.Spells source)
    (isSpelled : conversion.document.IsSpelled) :
    ∀ argument ∈ conversion.source.arguments source ++ conversion.options, IsPlain argument := by
  simp only [options, List.forall_mem_append]
  refine ⟨?_, plain_number .canvasSize (by decide) _, plain_number .padding (by decide) _, ?_⟩
  · cases channel : conversion.source with
    | file name =>
      rw [channel] at spells
      exact List.forall_mem_singleton.2 (plain_operand spells.2)
    | option => exact List.forall_mem_singleton.2 (plain_attached .text (by decide) source)
    | standardInput => simp [SourceChannel.arguments]
  · cases document : conversion.document with
    | standardOutput => exact List.forall_mem_singleton.2 (plain_name .stdout)
    | file name =>
      rw [document] at isSpelled
      exact List.forall_mem_cons.2 ⟨plain_name .output,
        List.forall_mem_singleton.2 (plain_operand isSpelled.2)⟩
    | usualFile => simp [DocumentChannel.arguments]

/-- The arguments of a conversion ask for it. -/
theorem arguments_ask (spells : conversion.source.Spells source)
    (isSpelled : conversion.document.IsSpelled) :
    Invocation.Asks (conversion.arguments source) (conversion.request source) := by
  have plain := plain_arguments spells isSpelled
  exact ⟨_, Invocation.ofArguments_chart .convert (fun argument member => (plain argument member).1)
    (fun argument member => (plain argument member).2) (read_arguments spells isSpelled), rfl⟩

end Conversion

end QuadrantChart
