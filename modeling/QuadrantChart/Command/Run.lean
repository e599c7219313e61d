/-
This file carries out invocations.
-/

import QuadrantChart.Command.Cheatsheet
import QuadrantChart.Command.Invocation

namespace QuadrantChart

/-- What an invocation finds around it: whether its standard input is a terminal, the encoding of
its standard output, the value of its debug variable, and the time. -/
structure Environment where
  terminal : Bool := false
  encoding : Encoding := .utf8
  debug : Option Text := none
  now : Moment

namespace Report

def ofUsage (message : Text) : Report where
  code := .arguments
  message := message
  hint := some "Use one of: convert, preview, cheatsheet.".toList

def noCommand : Report :=
  ofUsage "missing subcommand".toList

end Report

namespace Invocation

/-- The environment variable that asks for traces when it is one. -/
def debugVariable : String :=
  "QUADRANT2DRAWIO_DEBUG"

def isTraced (arguments : List Text) (environment : Environment) : Bool :=
  arguments.contains "--debug".toList || environment.debug = some ['1']

/-- The format for faults of the arguments themselves, which only an option with its full name
before its value sets. -/
def usageFormat (arguments : List Text) : ReportFormat :=
  match arguments.dropWhile (· != "--error-format".toList) with
  | _ :: word :: _ => (ReportFormat.ofText? word).getD .plain
  | _ => .plain

/-- A fault of the arguments is never traced. -/
def failUsage (format : ReportFormat) (report : Report) : Interaction :=
  .finish { ending := .failed ⟨report, format, false⟩ }

def session (invocation : Invocation) (arguments : List Text) (environment : Environment) :
    Session where
  format := invocation.format
  verbose := invocation.verbose
  traced := isTraced arguments environment
  terminal := environment.terminal
  encoding := environment.encoding
  now := environment.now

def start (invocation : Invocation) (session : Session) : Interaction :=
  match invocation.command with
  | none => session.fail [] [] .noCommand
  | some .cheatsheet =>
    session.print [] [] (Cheatsheet.text ++ ['\n']) fun output => .finish { output }
  | some (.chart request) => request.start session

/-- What the given arguments do. -/
def run (arguments : List Text) (environment : Environment) : Interaction :=
  if arguments.isEmpty then failUsage .plain .noCommand
  else match ofArguments arguments with
  | .error (.help command) =>
    let session := ({ format := usageFormat arguments } : Invocation).session arguments environment
    session.print [] [] (Help.page command) fun output => .finish { output }
  | .error (.usage fault) => failUsage (usageFormat arguments) (.ofUsage fault.message)
  | .ok invocation => invocation.start (invocation.session arguments environment)

end Invocation

end QuadrantChart
