/-
This file defines the arithmetic of numbers. Integers stay exact among themselves, and become
floating point numbers beside one.
-/

import QuadrantChart.Fault

namespace QuadrantChart

namespace Number

/-- A finite result, and the fault for any other. -/
def requireFinite (fault : Fault) : Binary64 → Except Fault Binary64
  | .finite negative units representable => .ok (.finite negative units representable)
  | _ => .error fault

/-- The nearest floating point number, which is finite for an integer. -/
def toDouble : Number → Except Fault Binary64
  | .integer value =>
    requireFinite .integerTooLarge (Binary64.ofQuotient (value < 0) value.natAbs 1)
  | .double value => .ok value

/-- Applies the exact operation to integers and the rounded one to all other numbers. -/
def combine (exact : Int → Int → Int) (rounded : Binary64 → Binary64 → Binary64) :
    Number → Number → Except Fault Number
  | .integer left, .integer right => .ok (.integer (exact left right))
  | left, right => do return .double (rounded (← left.toDouble) (← right.toDouble))

def add (left right : Number) : Except Fault Number :=
  combine (· + ·) (· + ·) left right

def sub (left right : Number) : Except Fault Number :=
  combine (· - ·) (· - ·) left right

def mul (left right : Number) : Except Fault Number :=
  combine (· * ·) (· * ·) left right

/-- The half of an integer is rounded once, also where the integer itself has no finite rounding. -/
def half : Number → Except Fault Number
  | .integer value =>
    (requireFinite .quotientTooLarge (Binary64.ofQuotient (value < 0) value.natAbs 2)).map .double
  | .double value => .ok (.double (value / 2))

/-- The second number when it is below the first. -/
def min (first second : Number) : Number :=
  if lt second first then second else first

def isFinite (value : Number) : Except Fault Bool := do
  return (← value.toDouble).isFinite

/-- The nearest integer, where ties go to the even one. -/
def round : Number → Except Fault Int
  | .integer value => .ok value
  | .double .nan => .error .nanNotInteger
  | .double (.infinite _) => .error .infinityNotInteger
  | .double (.finite negative units _) => .ok (Binary64.nearestInteger negative units)

end Number

end QuadrantChart
