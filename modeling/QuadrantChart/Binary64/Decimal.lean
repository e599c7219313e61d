/-
This file relates floating point numbers to decimals: the nearest number to a decimal, and the
shortest decimal of a number.
-/

import QuadrantChart.Binary64.Basic
import QuadrantChart.Text.Digits

namespace QuadrantChart

/-- A decimal is an integer times a power of ten. -/
structure Decimal where
  digits : Nat
  exponent : Int
  deriving DecidableEq, Repr

namespace Binary64

/-- The magnitude of the nearest number to a decimal, in units and with no bound. -/
def decimalUnits (decimal : Decimal) : Nat :=
  roundedQuotient (decimal.digits * Nat.pow 10 decimal.exponent.toNat * unitsPerOne)
    (Nat.pow 10 (-decimal.exponent).toNat)

/-- The nearest number to a decimal. Exponents that can only overflow or vanish are not expanded. -/
def ofDecimal (negative : Bool) (decimal : Decimal) : Binary64 :=
  if decimal.digits = 0 then ofUnits negative 0 1
  else if 400 < decimal.exponent then .infinite negative
  else if decimal.exponent + decimal.digits.log2 + 400 < 0 then ofUnits negative 0 1
  else
    ofUnits negative (decimal.digits * Nat.pow 10 decimal.exponent.toNat * unitsPerOne)
      (Nat.pow 10 (-decimal.exponent).toNat)

/-- A power of ten above a positive magnitude and at most a hundred times as large, as an exponent.
The decimal logarithm of two is close to 0.30103. -/
def decimalCeiling (units : Nat) : Int :=
  ((units.log2 : Int) - 1074) * 30103 / 100000 + 2

/-- The decimal of a grid that reads back to a magnitude and is nearest to it, where ties go to the
even one. Only the two neighbours of the magnitude can be it. -/
def decimalOnGrid? (units : Nat) (exponent : Int) : Option Decimal :=
  let numerator := units * Nat.pow 10 (-exponent).toNat
  let denominator := unitsPerOne * Nat.pow 10 exponent.toNat
  let below : Decimal := ⟨numerator / denominator, exponent⟩
  let above : Decimal := ⟨numerator / denominator + 1, exponent⟩
  let nearest : Decimal := ⟨nearestEven numerator denominator, exponent⟩
  if decimalUnits nearest = units then some nearest
  else if decimalUnits below = units then some below
  else if decimalUnits above = units then some above
  else none

/-- The exact decimal of a magnitude. -/
def exactDecimal (units : Nat) : Decimal :=
  ⟨units * Nat.pow 5 1074, -1074⟩

/-- Moves the trailing zeros of the digits into the exponent. -/
def stripZeros (digits : Nat) (exponent : Int) : Decimal :=
  if zeros : 0 < digits ∧ digits % 10 = 0 then stripZeros (digits / 10) (exponent + 1)
  else ⟨digits, exponent⟩
termination_by digits

/-- The decimal of fewest digits that reads back to a positive magnitude, and the nearest
of these. -/
def shortestDecimal (units : Nat) : Decimal :=
  let ceiling := decimalCeiling units
  let found := (List.range 18).findSome? fun (index : Nat) =>
    decimalOnGrid? units (ceiling - index - 1)
  let decimal := found.getD (exactDecimal units)
  stripZeros decimal.digits decimal.exponent

end Binary64

end QuadrantChart
