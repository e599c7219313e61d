/-
This file reads numerals: a sign, decimal digits of any script with a point, and an exponent.
-/

import QuadrantChart.Binary64.Decimal
import QuadrantChart.Text.Digits

namespace QuadrantChart

namespace Numeral

/-- Blank characters around a numeral do not count. The information separators are not
blank here. -/
def isSurrounding (char : Char) : Bool :=
  Text.isBlank char && !(0x1C ≤ char.toNat && char.toNat ≤ 0x1F)

/-- The digit zero to nine that has the same value, for a digit of any script. -/
def plainDigit (char : Char) : Char :=
  match Text.digitValue? char with
  | some value => Text.digitChar value
  | none => char

/-- Removes underscores, each of which has to stand between two digits. -/
def withoutUnderscores? (afterDigit : Bool) : Text → Option Text
  | [] => some []
  | char :: rest =>
    if char = '_' then
      if afterDigit && rest.head?.any Char.isDigit then withoutUnderscores? false rest else none
    else (withoutUnderscores? char.isDigit rest).map (char :: ·)

/-- The value of a sequence of plain digits. -/
def digitsValue (digits : Text) : Nat :=
  digits.foldl (fun value digit => 10 * value + (digit.toNat - 48)) 0

/-- A leading sign and what follows it. -/
def splitSign : Text → Bool × Text
  | '-' :: rest => (true, rest)
  | '+' :: rest => (false, rest)
  | text => (false, text)

/-- An exponent: nothing, or a mark, an optional sign and digits. -/
def exponent? : Text → Option Int
  | [] => some 0
  | mark :: rest =>
    let (negative, digits) := splitSign rest
    if (mark = 'e' || mark = 'E') && !digits.isEmpty && digits.all Char.isDigit then
      some (if negative then -(digitsValue digits : Int) else digitsValue digits)
    else none

/-- A decimal: digits with at most one point among or beside them, and an exponent. -/
def decimal? (text : Text) : Option Decimal :=
  let whole := text.takeWhile Char.isDigit
  let rest := text.dropWhile Char.isDigit
  let (fraction, rest) := match rest with
    | '.' :: rest => (rest.takeWhile Char.isDigit, rest.dropWhile Char.isDigit)
    | rest => ([], rest)
  if whole.isEmpty && fraction.isEmpty then none
  else (exponent? rest).map fun exponent =>
    ⟨digitsValue (whole ++ fraction), exponent - fraction.length⟩

/-- A number without a sign is a decimal or one of three words in any case. -/
def unsigned? (negative : Bool) (text : Text) : Option Binary64 :=
  let word := text.map Char.toLower
  if word = "inf".toList ∨ word = "infinity".toList then some (.infinite negative)
  else if word = "nan".toList then some .nan
  else (decimal? text).map (Binary64.ofDecimal negative)

/-- The number nearest to what a numeral says. -/
def read? (text : Text) : Option Binary64 := do
  let text ← withoutUnderscores? false ((Text.trimBy isSurrounding text).map plainDigit)
  let (negative, rest) := splitSign text
  unsigned? negative rest

end Numeral

end QuadrantChart
