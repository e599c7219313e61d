/-
This file writes natural numbers in decimal and hexadecimal digits, and knows the decimal digits of
all scripts.
-/

import QuadrantChart.Text.Basic

namespace QuadrantChart

namespace Text

def digitChar (digit : Nat) : Char :=
  if digit < 10 then Char.ofNat (48 + digit) else Char.ofNat (87 + digit)

/-- The decimal digits of a number without leading zeros. -/
def ofNat (value : Nat) : Text :=
  if value < 10 then [digitChar value] else ofNat (value / 10) ++ [digitChar (value % 10)]

def ofInt (value : Int) : Text :=
  if value < 0 then '-' :: ofNat value.natAbs else ofNat value.natAbs

/-- The decimal digits of a number, with leading zeros up to a width. -/
def padded (width value : Nat) : Text :=
  List.replicate (width - (ofNat value).length) '0' ++ ofNat value

/-- The lowest hexadecimal digits of a number, as many as the width. -/
def hexadecimal : (width : Nat) → (value : Nat) → Text
  | 0, _ => []
  | width + 1, value => hexadecimal width (value / 16) ++ [digitChar (value % 16)]

/-- The zeros of Unicode 14. The other nine digits of a script follow its zero in order. -/
def zeros : List Nat :=
  [0x30, 0x660, 0x6F0, 0x7C0, 0x966, 0x9E6, 0xA66, 0xAE6, 0xB66, 0xBE6, 0xC66, 0xCE6, 0xD66,
    0xDE6, 0xE50, 0xED0, 0xF20, 0x1040, 0x1090, 0x17E0, 0x1810, 0x1946, 0x19D0, 0x1A80, 0x1A90,
    0x1B50, 0x1BB0, 0x1C40, 0x1C50, 0xA620, 0xA8D0, 0xA900, 0xA9D0, 0xA9F0, 0xAA50, 0xABF0,
    0xFF10, 0x104A0, 0x10D30, 0x11066, 0x110F0, 0x11136, 0x111D0, 0x112F0, 0x11450, 0x114D0,
    0x11650, 0x116C0, 0x11730, 0x118E0, 0x11950, 0x11C50, 0x11D50, 0x11DA0, 0x16A60, 0x16AC0,
    0x16B50, 0x1D7CE, 0x1D7D8, 0x1D7E2, 0x1D7EC, 0x1D7F6, 0x1E140, 0x1E2F0, 0x1E950, 0x1FBF0]

/-- The value of a decimal digit. -/
def digitValue? (char : Char) : Option Nat :=
  (zeros.find? fun start => start ≤ char.toNat && char.toNat < start + 10).map
    fun start => char.toNat - start

def isDigit (char : Char) : Bool :=
  (digitValue? char).isSome

end Text

end QuadrantChart
