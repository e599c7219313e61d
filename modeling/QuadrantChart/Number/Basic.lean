/-
This file defines the numbers of a layout: integers of any size, and floating point numbers.
-/

import QuadrantChart.Binary64.Arithmetic
import QuadrantChart.Binary64.Written

namespace QuadrantChart

inductive Number where
  | integer (value : Int)
  | double (value : Binary64)
  deriving DecidableEq

namespace Number

instance (value : Nat) : OfNat Number value :=
  ⟨.integer value⟩

def text : Number → Text
  | .integer value => Text.ofInt value
  | .double value => value.written

/-- The exact order of an integer and a floating point number. -/
def integerLt (left : Int) : Binary64 → Bool
  | .nan => false
  | .infinite negative => !negative
  | .finite negative units _ => left * Binary64.unitsPerOne < Binary64.signedUnits negative units

/-- The exact order of a floating point number and an integer. -/
def ltInteger : Binary64 → Int → Bool
  | .nan, _ => false
  | .infinite negative, _ => negative
  | .finite negative units _, right =>
    Binary64.signedUnits negative units < right * Binary64.unitsPerOne

/-- The exact order of numbers, in which nothing is comparable with `nan`. -/
def lt : Number → Number → Bool
  | .integer left, .integer right => left < right
  | .integer left, .double right => integerLt left right
  | .double left, .integer right => ltInteger left right
  | .double left, .double right => left.lt right

def isNan : Number → Bool
  | .integer _ => false
  | .double value => value.isNan

def le (left right : Number) : Bool :=
  !left.isNan && !right.isNan && !lt right left

end Number

end QuadrantChart
