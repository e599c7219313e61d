/-
This file writes texts between quotes with escapes: as words in messages, whose printable characters
stay as they are, and as JSON strings of printable ASCII characters.
-/

import QuadrantChart.Text.Digits
import QuadrantChart.Text.Printable

namespace QuadrantChart

namespace Text

/-- A text with apostrophes and without quotation marks stands between quotation marks. -/
def quoteMark (text : Text) : Char :=
  if text.contains '\'' && !text.contains '"' then '"' else '\''

def escapeCode (char : Char) : Text :=
  if char.toNat ≤ 0xFF then '\\' :: 'x' :: hexadecimal 2 char.toNat
  else if char.toNat ≤ 0xFFFF then '\\' :: 'u' :: hexadecimal 4 char.toNat
  else '\\' :: 'U' :: hexadecimal 8 char.toNat

def escapeQuoted (mark char : Char) : Text :=
  if char = mark || char = '\\' then ['\\', char]
  else if char = '\t' then ['\\', 't']
  else if char = '\n' then ['\\', 'n']
  else if char = '\r' then ['\\', 'r']
  else if isPrintable char then [char]
  else escapeCode char

/-- A text between quotes on one line of printable characters. -/
def quoted (text : Text) : Text :=
  let mark := quoteMark text
  mark :: text.flatMap (escapeQuoted mark) ++ [mark]

def escapeUnit (code : Nat) : Text :=
  '\\' :: 'u' :: hexadecimal 4 code

/-- A character past the first 65536 is written as two surrogates. -/
def escapeJson (char : Char) : Text :=
  if char = '"' || char = '\\' then ['\\', char]
  else if char = '\n' then ['\\', 'n']
  else if char = '\r' then ['\\', 'r']
  else if char = '\t' then ['\\', 't']
  else if char = '\x08' then ['\\', 'b']
  else if char = '\x0c' then ['\\', 'f']
  else if 0x20 ≤ char.toNat && char.toNat ≤ 0x7E then [char]
  else if char.toNat < 0x10000 then escapeUnit char.toNat
  else
    let code := char.toNat - 0x10000
    escapeUnit (0xD800 + code / 0x400) ++ escapeUnit (0xDC00 + code % 0x400)

def jsonString (text : Text) : Text :=
  '"' :: text.flatMap escapeJson ++ ['"']

end Text

end QuadrantChart
