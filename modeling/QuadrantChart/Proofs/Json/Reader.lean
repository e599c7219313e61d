/-
This file defines a reader of JSON objects whose values are texts, truth values and null. It knows
nothing of how an object is written.
-/

import QuadrantChart.Text.Basic

namespace QuadrantChart

namespace Json

inductive Value where
  | null
  | boolean (value : Bool)
  | text (value : Text)
  deriving DecidableEq, Repr

/-- The names and values of an object in their order. -/
abbrev Members := List (Text × Value)

def isSpace (char : Char) : Bool :=
  char = ' ' || char = '\t' || char = '\n' || char = '\r'

def skipSpace (text : Text) : Text :=
  text.dropWhile isSpace

def hexDigit? (char : Char) : Option Nat :=
  if '0' ≤ char ∧ char ≤ '9' then some (char.toNat - '0'.toNat)
  else if 'a' ≤ char ∧ char ≤ 'f' then some (char.toNat - 'a'.toNat + 10)
  else if 'A' ≤ char ∧ char ≤ 'F' then some (char.toNat - 'A'.toNat + 10)
  else none

/-- The code of four digits, and what follows them. -/
def unit? : Text → Option (Nat × Text)
  | first :: second :: third :: fourth :: rest => do
    return ((((← hexDigit? first) * 16 + (← hexDigit? second)) * 16 + (← hexDigit? third)) * 16 +
      (← hexDigit? fourth), rest)
  | _ => none

def isHighSurrogate (code : Nat) : Bool :=
  0xD800 ≤ code && code < 0xDC00

def isLowSurrogate (code : Nat) : Bool :=
  0xDC00 ≤ code && code < 0xE000

/-- The character of one code, or of two surrogates. Other surrogates stand for no character. -/
def unicode? (text : Text) : Option (Char × Text) := do
  let (code, rest) ← unit? text
  if isHighSurrogate code then
    match rest with
    | '\\' :: 'u' :: rest => do
      let (low, rest) ← unit? rest
      if isLowSurrogate low then
        return (Char.ofNat (0x10000 + (code - 0xD800) * 0x400 + (low - 0xDC00)), rest)
      else none
    | _ => none
  else if isLowSurrogate code then none
  else return (Char.ofNat code, rest)

/-- The characters that stand for others behind a backslash. -/
def escapes : List (Char × Char) :=
  [('"', '"'), ('\\', '\\'), ('/', '/'), ('b', '\x08'), ('f', '\x0c'), ('n', '\n'), ('r', '\r'),
    ('t', '\t')]

/-- The first character of what is left of a text in quotes. -/
def character? : Text → Option (Char × Text)
  | [] => none
  | '\\' :: 'u' :: rest => unicode? rest
  | '\\' :: mark :: rest => (escapes.lookup mark).map fun char => (char, rest)
  | char :: rest => if char.toNat < 0x20 || char = '\\' then none else some (char, rest)

/-- The text up to the closing quote, which has at most so many characters with the quote, and what
follows it. -/
def quoted? : Nat → Text → Option (Text × Text)
  | 0, _ => none
  | count + 1, text =>
    if text.head? = some '"' then some ([], text.tail)
    else do
      let (char, rest) ← character? text
      let (others, rest) ← quoted? count rest
      return (char :: others, rest)

def value? : Text → Option (Value × Text)
  | 'n' :: 'u' :: 'l' :: 'l' :: rest => some (.null, rest)
  | 't' :: 'r' :: 'u' :: 'e' :: rest => some (.boolean true, rest)
  | 'f' :: 'a' :: 'l' :: 's' :: 'e' :: rest => some (.boolean false, rest)
  | '"' :: rest => (quoted? rest.length rest).map fun (text, rest) => (.text text, rest)
  | _ => none

/-- A name and its value, with the white space around them. -/
def member? (text : Text) : Option ((Text × Value) × Text) :=
  match skipSpace text with
  | '"' :: rest => do
    let (name, rest) ← quoted? rest.length rest
    match skipSpace rest with
    | ':' :: rest => do
      let (value, rest) ← value? (skipSpace rest)
      return ((name, value), skipSpace rest)
    | _ => none
  | _ => none

/-- The members up to the closing brace, at most so many of them. -/
def members? : Nat → Text → Option (Members × Text)
  | 0, _ => none
  | count + 1, text => do
    let (member, rest) ← member? text
    match rest with
    | '\x7d' :: rest => return ([member], rest)
    | ',' :: rest => do
      let (others, rest) ← members? count rest
      return (member :: others, rest)
    | _ => none

/-- The members of an object that stands alone in a text. -/
def object? (text : Text) : Option Members :=
  match skipSpace text with
  | '\x7b' :: rest =>
    match skipSpace rest with
    | '\x7d' :: rest => if (skipSpace rest).isEmpty then some [] else none
    | _ =>
      match members? rest.length rest with
      | some (members, rest) => if (skipSpace rest).isEmpty then some members else none
      | none => none
  | _ => none

end Json

end QuadrantChart
