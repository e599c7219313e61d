/-
This file is the command line of the program.
-/

import QuadrantChart.Command.Process
import Std.Time.DateTime.Timestamp

namespace QuadrantChart

namespace Main

/-- The number of a system error, which some operations give negated in 32 bits. -/
def errorNumber? : IO.Error → Option Nat
  | .noFileOrDirectory _ code _ | .permissionDenied _ code _ | .inappropriateType _ code _
  | .invalidArgument _ code _ | .resourceExhausted _ code _ | .noSuchThing _ code _
  | .alreadyExists _ code _ => some (min code.toNat (Nat.pow 2 32 - code.toNat))
  | _ => none

/-- The result of a file operation. An error that is no fault of the path stays an error. -/
def attempt {Result : Type} (path : Path) (operation : String → IO Result) :
    IO (Except FileFault Result) := do
  if path.written.contains '\x00' then return .error .nullCharacter
  try
    return .ok (← operation (String.ofList path.written))
  catch error =>
    match (errorNumber? error).bind FileFault.ofNumber? with
    | some fault => return .error fault
    | none => throw error

/-- Whether something is at a path. When there is not, opening it tells why. -/
def checkFile (path : Path) : IO (Option FileFault) := do
  match ← attempt path fun name => IO.FS.realPath name with
  | .ok _ => return none
  | .error _ => match ← attempt path fun name => IO.FS.Handle.mk name .read with
    | .ok _ => return none
    | .error fault => return some fault

def readFile (name : String) : IO Bytes := do
  return (← IO.FS.readBinFile name).toList

def writeFile (content : Bytes) (name : String) : IO Unit :=
  IO.FS.writeBinFile name ⟨content.toArray⟩

def perform : Interaction → IO Outcome
  | .finish outcome => return outcome
  | .checkFile path next => do perform (next (← checkFile path))
  | .readFile path next => do perform (next (← attempt path readFile))
  | .readInput next => do perform (next (← (← IO.getStdin).readBinToEnd).toList)
  | .writeFile path content next => do
    match ← attempt path (writeFile content) with
    | .ok _ => perform (next none)
    | .error fault => perform (next (some fault))

def now : IO Moment := do
  let elapsed := (← Std.Time.Timestamp.now).val
  return .ofSeconds (Moment.epoch + elapsed.second.val.toNat) (elapsed.nano.val.toNat / 1000)

end Main

end QuadrantChart

open QuadrantChart

def main (arguments : List String) : IO UInt32 := do
  let environment : Environment := {
    terminal := ← (← IO.getStdin).isTty
    debug := (← IO.getEnv Invocation.debugVariable).map String.toList
    now := ← Main.now }
  let (interaction, _) := Invocation.runLogged {} (arguments.map String.toList) environment
  let outcome ← Main.perform interaction
  (← IO.getStdout).putStr (String.ofList outcome.output)
  (← IO.getStderr).putStr (String.ofList outcome.errors)
  match outcome.exitCode? with
  | some code => return UInt32.ofNat code
  | none =>
    repeat IO.sleep 1000
    return 0
