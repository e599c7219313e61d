/-
This file defines why a chart, a document or a preview cannot be made.
-/

import QuadrantChart.Number.Basic
import QuadrantChart.Text.Escape

namespace QuadrantChart

inductive Fault where
  | notFinite (canvasSize padding : Number)
  | canvasNotPositive (canvasSize : Number)
  | paddingNegative (padding : Number)
  | integerTooLarge
  | quotientTooLarge
  | infinityNotInteger
  | nanNotInteger
  | dateOutOfRange
  | notNumeral (text : Text)
  | scaleNotPositive
  | tooManyDigits (limit : Nat)
  | unending
  deriving DecidableEq

namespace Fault

def notFiniteMessage (canvasSize padding : Text) : Text :=
  "canvas size and padding must be finite (got ".toList ++ canvasSize ++ ", ".toList ++ padding ++
    [')']

/-- Whether the canvas size or the padding is at fault. -/
def isConfiguration : Fault → Bool
  | .notFinite _ _ | .canvasNotPositive _ | .paddingNegative _ => true
  | _ => false

/-- Whether a result lies outside its range. -/
def isOverflow : Fault → Bool
  | .integerTooLarge | .quotientTooLarge | .infinityNotInteger | .dateOutOfRange => true
  | _ => false

def message : Fault → Text
  | .notFinite canvasSize padding => notFiniteMessage canvasSize.text padding.text
  | .canvasNotPositive canvasSize =>
    "canvas size must be > 0 (got ".toList ++ canvasSize.text ++ [')']
  | .paddingNegative padding =>
    "padding must be >= 0 (got ".toList ++ padding.text ++ [')']
  | .integerTooLarge => "int too large to convert to float".toList
  | .quotientTooLarge => "integer division result too large for a float".toList
  | .infinityNotInteger => "cannot convert float infinity to integer".toList
  | .nanNotInteger => "cannot convert float NaN to integer".toList
  | .dateOutOfRange => "date value out of range".toList
  | .notNumeral text => "could not convert string to float: ".toList ++ Text.quoted text
  | .scaleNotPositive => "scale must be > 0".toList
  | .tooManyDigits limit =>
    "Exceeds the limit (".toList ++ Text.ofNat limit ++
      " digits) for integer string conversion; ".toList ++
      "use sys.set_int_max_str_digits() to increase the limit".toList
  | .unending => "dashes are too short for the line".toList

end Fault

end QuadrantChart
