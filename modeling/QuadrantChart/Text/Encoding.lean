/-
This file defines what the encoding of a stream can write, and its complaint about what it cannot.
-/

import QuadrantChart.Text.Escape

namespace QuadrantChart

/-- An encoding with its name, the characters that it lacks and the reason for it. Every encoding
has the characters of ASCII. -/
structure Encoding where
  name : Text
  reason : Text
  lacks : Char → Bool
  hasAscii (char : Char) (small : char.toNat < 0x80) : lacks char = false

namespace Encoding

/-- Only surrogates are missing from UTF-8, and they are no characters. -/
def utf8 : Encoding where
  name := "utf-8".toList
  reason := "surrogates not allowed".toList
  lacks _ := false
  hasAscii _ _ := rfl

def ascii : Encoding where
  name := "ascii".toList
  reason := "ordinal not in range(128)".toList
  lacks char := 0x80 ≤ char.toNat
  hasAscii _ small := decide_eq_false (Nat.not_le_of_lt small)

def takes (encoding : Encoding) (text : Text) : Bool :=
  text.all fun char => !encoding.lacks char

/-- The first characters in a row that an encoding lacks, with their position. -/
def missing (encoding : Encoding) (text : Text) : Nat × Text :=
  let before := text.takeWhile fun char => !encoding.lacks char
  (before.length, (text.drop before.length).takeWhile encoding.lacks)

/-- Why a text cannot be encoded. A character by itself is named, and several are counted. -/
def complaint (encoding : Encoding) (text : Text) : Text :=
  let (position, characters) := encoding.missing text
  let place := match characters with
    | [char] =>
      " character '".toList ++ Text.escapeCode char ++ "' in position ".toList ++
        Text.ofNat position
    | _ =>
      " characters in position ".toList ++ Text.ofNat position ++ '-' ::
        Text.ofNat (position + characters.length - 1)
  '\'' :: encoding.name ++ "' codec can't encode".toList ++ place ++ ": ".toList ++ encoding.reason

end Encoding

end QuadrantChart
