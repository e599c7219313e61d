/-
This file reads chart sources. Reading never fails: lines that say nothing usable are skipped and
reported.
-/

import QuadrantChart.Source.Line
import QuadrantChart.Text.Escape

namespace QuadrantChart

/-- A later directive replaces what an earlier one set, and points are kept in order. -/
def Chart.apply (chart : Chart) : Directive → Chart
  | .title text => { chart with title := text }
  | .xAxis axis => { chart with xAxis := axis }
  | .yAxis axis => { chart with yAxis := axis }
  | .caption quadrant text => { chart with captions := chart.captions.set quadrant text }
  | .point point => { chart with points := chart.points ++ [point] }

namespace Source

/-- The lines of a source without their blank ends. -/
def lines (source : Text) : List Text :=
  (Text.lines source).map Text.trim

def Line.directive? : Line → Option Directive
  | .directive result => some result
  | _ => none

def directives (source : Text) : List Directive :=
  (lines source).filterMap fun line => (readLine line).directive?

/-- The chart that a source describes. -/
def chart (source : Text) : Chart :=
  (directives source).foldl Chart.apply {}

inductive SkipReason where
  | malformed
  | unrecognized
  deriving DecidableEq, Repr

/-- A skipped line and its number, which counts from one. -/
structure Skip where
  reason : SkipReason
  number : Nat
  line : Text
  deriving DecidableEq, Repr

def skip? (number : Nat) (line : Text) : Option Skip :=
  match readLine line with
  | .malformed => some ⟨.malformed, number, line⟩
  | .unrecognized => some ⟨.unrecognized, number, line⟩
  | _ => none

/-- The skipped lines of a source in order. -/
def skips (source : Text) : List Skip :=
  ((lines source).zipIdx 1).filterMap fun (line, number) => skip? number line

def Skip.message (skip : Skip) : Text :=
  let reason := match skip.reason with
    | .malformed => "ignored malformed directive on line ".toList
    | .unrecognized => "ignored unrecognized line ".toList
  reason ++ Text.ofNat skip.number ++ ": ".toList ++ Text.quoted skip.line

/-- The log record of a skipped line. -/
def Skip.record (skip : Skip) : Text :=
  "DEBUG quadrant2drawio.parser: ".toList ++ skip.message

end Source

end QuadrantChart
