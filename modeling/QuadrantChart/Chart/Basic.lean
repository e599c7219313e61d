/-
This file defines quadrant charts: their texts, and their points in the unit square.
-/

import QuadrantChart.Number.Arithmetic

namespace QuadrantChart

inductive Quadrant where
  | topRight
  | topLeft
  | bottomLeft
  | bottomRight
  deriving DecidableEq, Repr

/-- The labels at the low end and at the high end of an axis. -/
structure Axis where
  low : Text := []
  high : Text := []
  deriving DecidableEq, Repr

structure Captions where
  topRight : Text := []
  topLeft : Text := []
  bottomLeft : Text := []
  bottomRight : Text := []
  deriving DecidableEq, Repr

structure Point where
  label : Text
  x : Binary64
  y : Binary64
  deriving DecidableEq

structure Chart where
  title : Text := "Quadrant Chart".toList
  xAxis : Axis := {}
  yAxis : Axis := {}
  captions : Captions := {}
  points : List Point := []
  deriving DecidableEq

def Captions.set (captions : Captions) (quadrant : Quadrant) (text : Text) : Captions :=
  match quadrant with
  | .topRight => { captions with topRight := text }
  | .topLeft => { captions with topLeft := text }
  | .bottomLeft => { captions with bottomLeft := text }
  | .bottomRight => { captions with bottomRight := text }

/-- The nearest number between zero and one. What is not a number counts as zero. -/
def clampUnit (value : Binary64) : Binary64 :=
  if value.isNan then 0 else (value.max 0).min 1

/-- A point holds clamped coordinates only. -/
def Point.clamped (label : Text) (x y : Binary64) : Point :=
  ⟨label, clampUnit x, clampUnit y⟩

def Point.ofNumbers (label : Text) (x y : Number) : Except Fault Point := do
  return .clamped label (← x.toDouble) (← y.toDouble)

/-- The quadrant of a position whose coordinates are numbers. The middle belongs to the
upper right. -/
def Quadrant.ofPosition? (x y : Number) : Option Quadrant :=
  let middle : Number := .double (1 / 2)
  if middle.le x && middle.le y then some .topRight
  else if x.lt middle && middle.le y then some .topLeft
  else if x.lt middle && y.lt middle then some .bottomLeft
  else if middle.le x && y.lt middle then some .bottomRight
  else none

end QuadrantChart
