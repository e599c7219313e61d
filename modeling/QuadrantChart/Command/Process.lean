/-
This file carries out the invocations of one process, which share its logger.
-/

import QuadrantChart.Command.Run

namespace QuadrantChart

/-- Changes the log of a command when it finishes. -/
def Interaction.mapLog (change : List Text → List Text) : Interaction → Interaction
  | .finish outcome => .finish { outcome with log := change outcome.log }
  | .checkFile path next => .checkFile path fun fault => (next fault).mapLog change
  | .readFile path next => .readFile path fun found => (next found).mapLog change
  | .readInput next => .readInput fun bytes => (next bytes).mapLog change
  | .writeFile path content next =>
    .writeFile path content fun fault => (next fault).mapLog change

/-- Without a level of its own a logger has the level of warnings. -/
inductive LogLevel where
  | inherited
  | debug
  deriving DecidableEq, Repr

/-- A logger counts its handlers, all of which write to standard error. -/
structure Logger where
  level : LogLevel := .inherited
  handlers : Nat := 0
  deriving DecidableEq, Repr

namespace Logger

/-- What is written of the records of skipped lines, which are below warnings. -/
def write (logger : Logger) (records : List Text) : List Text :=
  match logger.level with
  | .inherited => []
  | .debug => records.flatMap (List.replicate logger.handlers)

/-- The logger while an invocation runs. -/
def attach (logger : Logger) (verbose : Bool) : Logger :=
  if verbose then { level := .debug, handlers := logger.handlers + 1 } else logger

/-- The logger after an invocation, whichever way it has ended. -/
def detach (logger : Logger) (verbose : Bool) : Logger :=
  if verbose then { level := .inherited, handlers := logger.handlers - 1 } else logger

end Logger

/-- What the given arguments do in a process, and the logger after them. All skipped lines are
handed to the logger, which a verbose invocation changes when its arguments have been read. -/
def Invocation.runLogged (logger : Logger) (arguments : List Text) (environment : Environment) :
    Interaction × Logger :=
  match arguments.isEmpty, ofArguments arguments with
  | false, .ok invocation =>
    let attached := logger.attach invocation.verbose
    let session := { invocation.session arguments environment with verbose := true }
    ((invocation.start session).mapLog attached.write, attached.detach invocation.verbose)
  | _, _ => (run arguments environment, logger)

/-- An invocation with what it finds around it. -/
structure Call where
  arguments : List Text
  environment : Environment
  input : Bytes := []

/-- The outcome of each call of a process with the files after it, and the logger at the end.
Nothing comes after a call that never ends. -/
def Call.runAll (logger : Logger) (tree : FileTree) :
    List Call → List (Outcome × FileTree) × Option Logger
  | [] => ([], some logger)
  | call :: calls =>
    let (interaction, next) := Invocation.runLogged logger call.arguments call.environment
    let result := interaction.run call.input tree
    if result.1.exitCode?.isNone then ([result], none)
    else
      let (results, last) := runAll next result.2 calls
      (result :: results, last)

end QuadrantChart
