/-
This file defines what a command does with files and with its standard input, and how it ends.
-/

import QuadrantChart.Command.Report
import QuadrantChart.File.Tree

namespace QuadrantChart

/-- A report in its format, and whether a trace follows it. -/
structure Failure where
  report : Report
  format : ReportFormat
  traced : Bool
  deriving DecidableEq, Repr

inductive Ending where
  | done
  | failed (failure : Failure)
  | never
  deriving DecidableEq, Repr

/-- What a command has printed and logged, and how it ends. A command that never ends stays with
what it has printed and logged so far. -/
structure Outcome where
  output : Text := []
  log : List Text := []
  ending : Ending := .done
  deriving DecidableEq, Repr

/-- The line that stands for a trace. -/
def Failure.trace : Text :=
  "<traceback>\n".toList

def Failure.written (failure : Failure) : Text :=
  failure.report.written failure.format ++ if failure.traced then trace else []

namespace Outcome

/-- The exit code of a command that ends. -/
def exitCode? (outcome : Outcome) : Option Nat :=
  match outcome.ending with
  | .done => some 0
  | .failed failure => some failure.report.code.exitCode
  | .never => none

def failure? (outcome : Outcome) : Option Failure :=
  match outcome.ending with
  | .failed failure => some failure
  | .done | .never => none

/-- What appears on standard error: the log, and then the failure. -/
def errors (outcome : Outcome) : Text :=
  (outcome.log.flatMap fun record => record ++ ['\n']) ++
    (outcome.failure?.map Failure.written).getD []

end Outcome

/-- A command finishes, or it goes on with what a file operation or its standard input gives. -/
inductive Interaction where
  | finish (outcome : Outcome)
  | checkFile (path : Path) (next : Option FileFault → Interaction)
  | readFile (path : Path) (next : Except FileFault Bytes → Interaction)
  | readInput (next : Bytes → Interaction)
  | writeFile (path : Path) (content : Bytes) (next : Option FileFault → Interaction)

namespace Interaction

/-- The outcome of a command with a standard input and a tree of files, and the tree after it. -/
def run (input : Bytes) (tree : FileTree) : Interaction → Outcome × FileTree
  | .finish outcome => (outcome, tree)
  | .checkFile path next => run input tree (next (tree.check path))
  | .readFile path next => run input tree (next (tree.read path))
  | .readInput next => run input tree (next input)
  | .writeFile path content next =>
    match tree.write path content with
    | .ok tree => run input tree (next none)
    | .error fault => run input tree (next (some fault))

end Interaction

end QuadrantChart
