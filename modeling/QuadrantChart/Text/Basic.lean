/-
This file defines texts, blank characters, and the removal and splitting of their parts.
-/

namespace QuadrantChart

/-- Texts are lists of Unicode characters. -/
abbrev Text := List Char

namespace Text

/-- Blank characters are the white space of Unicode 14 and the four information separators. -/
def blankRanges : List (Nat × Nat) :=
  [(0x09, 0x0D), (0x1C, 0x20), (0x85, 0x85), (0xA0, 0xA0), (0x1680, 0x1680), (0x2000, 0x200A),
    (0x2028, 0x2029), (0x202F, 0x202F), (0x205F, 0x205F), (0x3000, 0x3000)]

def inRanges (ranges : List (Nat × Nat)) (code : Nat) : Bool :=
  ranges.any fun range => range.1 ≤ code && code ≤ range.2

def isBlank (char : Char) : Bool :=
  inRanges blankRanges char.toNat

/-- A text without the characters of a kind at either end. -/
def trimBy (kind : Char → Bool) (text : Text) : Text :=
  ((text.dropWhile kind).reverse.dropWhile kind).reverse

def trim (text : Text) : Text :=
  trimBy isBlank text

/-- Puts a character in front of the first part. -/
def prependFirst (char : Char) : List Text → List Text
  | [] => [[char]]
  | part :: parts => (char :: part) :: parts

/-- The parts of a text between the occurrences of a separating character. -/
def splitOn (separator : Char) : Text → List Text
  | [] => [[]]
  | char :: rest =>
    if char = separator then [] :: splitOn separator rest
    else prependFirst char (splitOn separator rest)

/-- The two sides of the first occurrence of a character, when it occurs. -/
def splitFirst (separator : Char) : Text → Option (Text × Text)
  | [] => none
  | char :: rest =>
    if char = separator then some ([], rest)
    else (splitFirst separator rest).map fun sides => (char :: sides.1, sides.2)

/-- The lines of a text, which only line feeds separate. -/
def lines (text : Text) : List Text :=
  splitOn '\n' text

/-- Writes a separator between any two neighbouring parts. -/
def join (separator : Text) : List Text → Text
  | [] => []
  | [part] => part
  | part :: next :: parts => part ++ separator ++ join separator (next :: parts)

end Text

end QuadrantChart
