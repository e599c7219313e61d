/-
This file defines the arithmetic of floating point numbers. Every result is the exact one, rounded
once.
-/

import QuadrantChart.Binary64.Basic

namespace QuadrantChart

namespace Binary64

/-- The exact sum of opposite numbers is a positive zero. -/
def ofSignedUnits (zeroNegative : Bool) (sum : Int) : Binary64 :=
  if sum = 0 then ofUnits zeroNegative 0 1 else ofUnits (sum < 0) sum.natAbs 1

def add : Binary64 → Binary64 → Binary64
  | .nan, _ => .nan
  | _, .nan => .nan
  | .infinite left, .infinite right => if left = right then .infinite left else .nan
  | .infinite left, .finite _ _ _ => .infinite left
  | .finite _ _ _, .infinite right => .infinite right
  | .finite left leftUnits _, .finite right rightUnits _ =>
    ofSignedUnits (left && right) (signedUnits left leftUnits + signedUnits right rightUnits)

def sub (left right : Binary64) : Binary64 :=
  add left right.negate

def mul : Binary64 → Binary64 → Binary64
  | .nan, _ => .nan
  | _, .nan => .nan
  | .infinite left, .infinite right => .infinite (left != right)
  | .infinite left, .finite right units _ => if units = 0 then .nan else .infinite (left != right)
  | .finite left units _, .infinite right => if units = 0 then .nan else .infinite (left != right)
  | .finite left leftUnits _, .finite right rightUnits _ =>
    ofUnits (left != right) (leftUnits * rightUnits) unitsPerOne

/-- A quotient by zero is infinite, and `nan` when zero is divided. -/
def div : Binary64 → Binary64 → Binary64
  | .nan, _ => .nan
  | _, .nan => .nan
  | .infinite _, .infinite _ => .nan
  | .infinite left, .finite right _ _ => .infinite (left != right)
  | .finite left _ _, .infinite right => ofUnits (left != right) 0 1
  | .finite left leftUnits _, .finite right rightUnits _ =>
    if rightUnits = 0 then
      if leftUnits = 0 then .nan else .infinite (left != right)
    else ofUnits (left != right) (leftUnits * unitsPerOne) rightUnits

instance : Add Binary64 := ⟨add⟩

instance : Sub Binary64 := ⟨sub⟩

instance : Mul Binary64 := ⟨mul⟩

instance : Div Binary64 := ⟨div⟩

instance : Neg Binary64 := ⟨negate⟩

/-- The second number when it is below the first. -/
def min (first second : Binary64) : Binary64 :=
  if lt second first then second else first

/-- The second number when it is above the first. -/
def max (first second : Binary64) : Binary64 :=
  if lt first second then second else first

/-- The nearest integer to a finite number, where ties go to the even one. -/
def nearestInteger (negative : Bool) (units : Nat) : Int :=
  signedUnits negative (nearestEven units unitsPerOne)

/-- Improves a bound of a square root from above until it is the floor of the root. -/
def improveRoot (square bound : Nat) : Nat :=
  let next := (bound + square / bound) / 2
  if next < bound then improveRoot square next else bound
termination_by bound

/-- The floor of the square root. -/
def floorRoot (square : Nat) : Nat :=
  if square ≤ 1 then square else improveRoot square (Nat.pow 2 (square.log2 / 2 + 1))

/-- Between two integers no rounding point lies, so a half stands for any part of a root. -/
def sqrt : Binary64 → Binary64
  | .finite negative units representable =>
    if units = 0 then .finite negative units representable
    else if negative then .nan
    else
      let square := units * unitsPerOne
      let root := floorRoot square
      ofUnits false (2 * root + if root * root = square then 0 else 1) 2
  | .infinite false => .infinite false
  | _ => .nan

end Binary64

end QuadrantChart
