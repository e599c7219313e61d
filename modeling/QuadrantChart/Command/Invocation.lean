/-
This file reads the arguments of an invocation: general options, and then a command with its own.
-/

import QuadrantChart.Binary64.Reading
import QuadrantChart.Command.ChartRequest
import QuadrantChart.Command.CommandLine
import QuadrantChart.Command.Help

namespace QuadrantChart

inductive GeneralOption where
  | help
  | errorFormat
  | debug
  | verbose
  deriving DecidableEq, Repr

inductive ChartOption where
  | help
  | text
  | stdout
  | output
  | scale
  | canvasSize
  | padding
  deriving DecidableEq, Repr

inductive Command where
  | chart (request : ChartRequest)
  | cheatsheet
  deriving DecidableEq

/-- What the arguments ask for. -/
structure Invocation where
  format : ReportFormat := .plain
  verbose : Bool := false
  command : Option Command := none
  deriving DecidableEq

/-- Why no command is carried out. -/
inductive Halt where
  | help (command : Option CommandName)
  | usage (fault : UsageFault)
  deriving DecidableEq

/-- The names of the options in the order of their listings. -/
def OptionRule.of {Key : Type} (key : Key) (names : List String) (takesValue : Bool) :
    OptionRule Key :=
  ⟨key, names.map String.toList, takesValue⟩

namespace GeneralOption

def table : OptionTable GeneralOption :=
  [.of .help ["-h", "--help"] false,
    .of .errorFormat ["--error-format"] true,
    .of .debug ["--debug"] false,
    .of .verbose ["--verbose"] false]

end GeneralOption

namespace ChartOption

def table (action : ChartAction) : OptionTable ChartOption :=
  [.of .help ["-h", "--help"] false,
    .of .text ["--text"] true,
    .of .stdout ["--stdout"] false,
    .of .output ["-o", "--output"] true] ++
    (match action with
      | .convert => []
      | .preview => [.of .scale ["--scale"] true]) ++
    [.of .canvasSize ["--canvas-size"] true,
      .of .padding ["--padding"] true]

end ChartOption

/-- The options of a command without arguments. -/
def helpTable : OptionTable Unit :=
  [.of () ["-h", "--help"] false]

def nonempty? (text : Text) : Option Text :=
  if text.isEmpty then none else some text

/-- The number that an option's value says, unless the option is blank. -/
def readNumber {Key : Type} (rule : OptionRule Key) : Option Text → Except Halt (Option Number)
  | none => .ok none
  | some value => match Numeral.read? value with
    | some number => .ok (some (.double number))
    | none => .error (.usage (.notNumeral rule.title value))

namespace ChartAction

def name : ChartAction → CommandName
  | .convert => .convert
  | .preview => .preview

end ChartAction

def SourceOption.ofValue : Option Text → SourceOption
  | some text => .given text
  | none => .blank

namespace ChartRequest

def withInput (request : ChartRequest) (input : Text) : ChartRequest :=
  { request with input := nonempty? input }

/-- A later option replaces an earlier one. -/
def set (request : ChartRequest) (rule : OptionRule ChartOption) (value : Option Text) :
    Except Halt ChartRequest :=
  match rule.key with
  | .help => .error (.help (some request.action.name))
  | .text => .ok { request with text := SourceOption.ofValue value }
  | .stdout => .ok { request with prints := true }
  | .output => .ok { request with output := value.bind nonempty? }
  | .scale => return { request with scale := ← readNumber rule value }
  | .canvasSize => return { request with canvasSize := ← readNumber rule value }
  | .padding => return { request with padding := ← readNumber rule value }

/-- The request of a command line, with its unrecognized arguments. The first operand is the input,
and a separator directly before or after it is left out. -/
def read (request : ChartRequest) (hasInput : Bool) (unrecognized : List Text) :
    CommandLine ChartOption → Except Halt (ChartRequest × List Text)
  | .finished => .ok (request, unrecognized)
  | .faulty fault => .error (.usage fault)
  | .option rule value rest => do (← request.set rule value).read hasInput unrecognized rest
  | .unknown argument rest => request.read hasInput (unrecognized ++ [argument]) rest
  | .operand argument _ rest =>
    if hasInput then request.read true (unrecognized ++ [argument]) rest
    else match rest with
    | .separator following => .ok (request.withInput argument, unrecognized ++ following)
    | rest => (request.withInput argument).read true unrecognized rest
  | .separator following =>
    if hasInput then .ok (request, unrecognized ++ CommandLine.separatorText :: following)
    else match following with
    | [] => .ok (request, unrecognized)
    | input :: others => .ok (request.withInput input, unrecognized ++ others)

end ChartRequest

/-- The arguments of a command that takes none. -/
def readBare (name : CommandName) (unrecognized : List Text) :
    CommandLine Unit → Except Halt (List Text)
  | .finished => .ok unrecognized
  | .faulty fault => .error (.usage fault)
  | .option _ _ _ => .error (.help (some name))
  | .unknown argument rest => readBare name (unrecognized ++ [argument]) rest
  | .operand argument _ rest => readBare name (unrecognized ++ [argument]) rest
  | .separator following => .ok (unrecognized ++ CommandLine.separatorText :: following)

/-- The command of a name with the arguments after it, and its unrecognized arguments. -/
def Command.read (name : CommandName) (arguments : List Text) : Except Halt (Command × List Text) :=
  match name with
  | .convert => chart .convert
  | .preview => chart .preview
  | .cheatsheet => do
    return (.cheatsheet, ← readBare name [] (helpTable.read arguments))
where
  chart (action : ChartAction) : Except Halt (Command × List Text) := do
    let line := (ChartOption.table action).read arguments
    let (request, unrecognized) ← ({ action } : ChartRequest).read false [] line
    return (.chart request, unrecognized)

namespace Invocation

/-- The format that an option's value names. A blank option asks for plain text. -/
def readFormat (rule : OptionRule GeneralOption) : Option Text → Except Halt ReportFormat
  | none => .ok .plain
  | some value => match ReportFormat.ofText? value with
    | some format => .ok format
    | none =>
      .error (.usage (.notChoice rule.title value (ReportFormat.all.map ReportFormat.text)))

def set (invocation : Invocation) (rule : OptionRule GeneralOption) (value : Option Text) :
    Except Halt Invocation :=
  match rule.key with
  | .help => .error (.help none)
  | .errorFormat => return { invocation with format := ← readFormat rule value }
  | .debug => .ok invocation
  | .verbose => .ok { invocation with verbose := true }

/-- Adds the command of a word with the arguments after it. -/
def withCommand (invocation : Invocation) (unrecognized : List Text) (word : Text)
    (arguments : List Text) : Except Halt (Invocation × List Text) :=
  match CommandName.ofText? word with
  | none =>
    .error (.usage (.notChoice "command".toList word (CommandName.all.map CommandName.text)))
  | some name => do
    let (command, more) ← Command.read name arguments
    return ({ invocation with command := some command }, unrecognized ++ more)

/-- All arguments after a command word are the command's own. A separator is no command word, but it
stands in the place of one unless it is the last argument. -/
def read (invocation : Invocation) (unrecognized : List Text) :
    CommandLine GeneralOption → Except Halt (Invocation × List Text)
  | .finished => .ok (invocation, unrecognized)
  | .faulty fault => .error (.usage fault)
  | .option rule value rest => do (← invocation.set rule value).read unrecognized rest
  | .unknown argument rest => invocation.read (unrecognized ++ [argument]) rest
  | .operand word following _ => invocation.withCommand unrecognized word following
  | .separator [] => .ok (invocation, unrecognized ++ [CommandLine.separatorText])
  | .separator following =>
    invocation.withCommand unrecognized CommandLine.separatorText following

/-- The invocation of a list of arguments, all of which have to be recognized. -/
def ofArguments (arguments : List Text) : Except Halt Invocation := do
  let (invocation, unrecognized) ← ({} : Invocation).read [] (GeneralOption.table.read arguments)
  if unrecognized.isEmpty then return invocation
  else throw (.usage (.unrecognized unrecognized))

end Invocation

end QuadrantChart
