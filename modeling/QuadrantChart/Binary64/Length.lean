/-
This file defines the length of a step in the plane from its two components.
-/

import QuadrantChart.Binary64.Arithmetic

namespace QuadrantChart

namespace Binary64

/-- A sum keeps what rounding took from its leading part in three corrections. -/
structure CompensatedSum where
  leading : Binary64
  large : Binary64
  middle : Binary64
  small : Binary64

namespace CompensatedSum

/-- The sum of nothing, with a one in front so that every term is smaller than the leading part. -/
def start : CompensatedSum :=
  ⟨1, 0, 0, 0⟩

def addLarge (sum : CompensatedSum) (term : Binary64) : CompensatedSum :=
  let leading := sum.leading + term
  { sum with leading, large := sum.large + ((sum.leading - leading) + term) }

def addMiddle (sum : CompensatedSum) (term : Binary64) : CompensatedSum :=
  let leading := sum.leading + term
  { sum with leading, middle := sum.middle + ((sum.leading - leading) + term) }

def addSmall (sum : CompensatedSum) (term : Binary64) : CompensatedSum :=
  let leading := sum.leading + term
  { sum with leading, small := sum.small + ((sum.leading - leading) + term) }

def total (sum : CompensatedSum) : Binary64 :=
  (sum.leading - 1) + (sum.large + sum.middle + sum.small)

end CompensatedSum

/-- The upper half of the bits of a number. -/
def upperHalf (value : Binary64) : Binary64 :=
  let scaled := value * ofNat (Nat.pow 2 27 + 1)
  scaled - (scaled - value)

def addSquare (sum : CompensatedSum) (value : Binary64) : CompensatedSum :=
  let upper := upperHalf value
  let lower := value - upper
  let sum := (sum.addLarge (upper * upper)).addMiddle (2 * upper * lower)
  { sum with small := sum.small + lower * lower }

def subtractSquare (sum : CompensatedSum) (value : Binary64) : CompensatedSum :=
  let upper := upperHalf value
  let lower := value - upper
  ((sum.addLarge (-upper * upper)).addMiddle (-2 * upper * lower)).addSmall (-lower * lower)

/-- The root of a sum of squares below two, after one correction by what its square misses. -/
def compensatedRoot (first second : Binary64) : Binary64 :=
  let sum := addSquare (addSquare .start first) second
  let root := sqrt sum.total
  root + (subtractSquare sum root).total / (2 * root)

/-- The least power of two above a magnitude, as an exponent. -/
def ceilingExponent (units : Nat) : Int :=
  units.log2 + 1 - 1074

/-- The number `2 ^ exponent`, for an exponent of at least `-1074`. -/
def powerOfTwo (exponent : Int) : Binary64 :=
  ofUnits false (Nat.pow 2 (exponent + 1074).toNat) 1

/-- Below the reciprocals the larger magnitude is the scale. -/
def tinyLength (larger first second : Binary64) : Binary64 :=
  let square (value : Binary64) := (value / larger) * (value / larger)
  let sum := (CompensatedSum.start.addLarge (square first)).addLarge (square second)
  larger * sqrt ((sum.leading - 1) + sum.large)

/-- The length of the sloping step whose larger component is given. -/
def slopingLength (largerUnits : Nat) (larger first second : Binary64) : Binary64 :=
  let exponent := ceilingExponent largerUnits
  if -1023 ≤ exponent then
    let scale := powerOfTwo (-exponent)
    compensatedRoot (first * scale) (second * scale) / scale
  else
    tinyLength larger first second

/-- The length of a step. An infinite component decides before `nan` does, and a step along an axis
is as long as its component. -/
def length : Binary64 → Binary64 → Binary64
  | .infinite _, _ => .infinite false
  | _, .infinite _ => .infinite false
  | .nan, _ => .nan
  | _, .nan => .nan
  | .finite _ first firstFits, .finite _ second secondFits =>
    if first = 0 then .finite false second secondFits
    else if second = 0 then .finite false first firstFits
    else if first < second then
      slopingLength second (.finite false second secondFits) (.finite false first firstFits)
        (.finite false second secondFits)
    else
      slopingLength first (.finite false first firstFits) (.finite false first firstFits)
        (.finite false second secondFits)

end Binary64

end QuadrantChart
