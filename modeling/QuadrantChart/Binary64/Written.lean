/-
This file writes floating point numbers as texts of fewest digits.
-/

import QuadrantChart.Binary64.Decimal

namespace QuadrantChart

namespace Binary64

/-- An exponent has a sign and at least two digits. -/
def writtenExponent (exponent : Int) : Text :=
  (if exponent < 0 then '-' else '+') :: Text.padded 2 exponent.natAbs

/-- Digits with one digit before the point, and no point after a single digit. -/
def writtenScientific (digits : Text) (exponent : Int) : Text :=
  let significand := match digits with
    | [] => []
    | [digit] => [digit]
    | digit :: rest => digit :: '.' :: rest
  significand ++ 'e' :: writtenExponent exponent

/-- Digits with the point after as many of them as the position says, and at least one digit on
either side of it. -/
def writtenPositional (digits : Text) (position : Int) : Text :=
  if position ≤ 0 then
    '0' :: '.' :: List.replicate (-position).toNat '0' ++ digits
  else if (digits.length : Int) ≤ position then
    digits ++ List.replicate (position.toNat - digits.length) '0' ++ ['.', '0']
  else
    digits.take position.toNat ++ '.' :: digits.drop position.toNat

/-- Leading digits from the fourth decimal place up to the sixteenth place before the point are
written positionally. -/
def writtenDecimal (decimal : Decimal) : Text :=
  let digits := Text.ofNat decimal.digits
  let position := decimal.exponent + digits.length
  if -4 < position ∧ position ≤ 16 then writtenPositional digits position
  else writtenScientific digits (position - 1)

def writtenMagnitude (units : Nat) : Text :=
  if units = 0 then "0.0".toList else writtenDecimal (shortestDecimal units)

/-- The text of a number, which has the fewest digits that read back to it. -/
def written : Binary64 → Text
  | .nan => "nan".toList
  | .infinite negative => (if negative then "-inf" else "inf").toList
  | .finite negative units _ => (if negative then ['-'] else []) ++ writtenMagnitude units

/-- The text of a number in which integral numbers show all their digits and no point. -/
def writtenPlain : Binary64 → Text
  | .finite negative units representable =>
    if units % unitsPerOne = 0 then Text.ofInt (signedUnits negative (units / unitsPerOne))
    else written (.finite negative units representable)
  | value => written value

end Binary64

end QuadrantChart
