/-
This file reads point lines: a label, a colon, and two coordinates in brackets.
-/

import QuadrantChart.Binary64.Reading
import QuadrantChart.Chart.Basic

namespace QuadrantChart

namespace Source

def isNumeralPart (char : Char) : Bool :=
  Text.isDigit char || char = '.'

/-- An optional minus sign and digits or points, at the start of a text, and what follows them. -/
def numeral? (text : Text) : Option (Text × Text) :=
  let (sign, unsigned) := match text with
    | '-' :: rest => (['-'], rest)
    | text => ([], text)
  let parts := unsigned.takeWhile isNumeralPart
  if parts.isEmpty then none else some (sign ++ parts, unsigned.dropWhile isNumeralPart)

/-- What follows a character at the start of a text. -/
def after? (char : Char) : Text → Option Text
  | [] => none
  | first :: rest => if first = char then some rest else none

/-- The two numerals in brackets at the start of a text, which blank characters may precede. -/
def coordinates? (text : Text) : Option (Text × Text) := do
  let text ← after? '[' (text.dropWhile Text.isBlank)
  let (x, text) ← numeral? text
  let text ← after? ',' text
  let (y, text) ← numeral? (text.dropWhile Text.isBlank)
  let _ ← after? ']' text
  return (x, y)

/-- The text before the last colon that coordinates follow, with these coordinates. -/
def lastColon? : Text → Option (Text × Text × Text)
  | [] => none
  | char :: rest =>
    match lastColon? rest with
    | some (label, coordinates) => some (char :: label, coordinates)
    | none => if char = ':' then (coordinates? rest).map (([], ·)) else none

/-- The label of a point has at least one character before the colon. -/
def pointParts? : Text → Option (Text × Text × Text)
  | [] => none
  | first :: rest => (lastColon? rest).map fun (label, coordinates) => (first :: label, coordinates)

/-- The point of a line. A numeral with no digit, or with two points, is none. -/
def point? (line : Text) : Option Point := do
  let (label, x, y) ← pointParts? line
  return .clamped (Text.trim label) (← Numeral.read? x) (← Numeral.read? y)

def looksLikePoint (line : Text) : Bool :=
  line.contains ':' && line.contains '[' && line.contains ']'

end Source

end QuadrantChart
