/-
This file decodes UTF-8 strictly and says where and why bytes are not UTF-8.
-/

import QuadrantChart.Text.Digits

namespace QuadrantChart

abbrev Bytes := List UInt8

namespace Text

inductive Utf8Reason where
  | invalidStart
  | invalidContinuation
  | unexpectedEnd
  deriving DecidableEq, Repr

/-- The undecodable bytes are `count` bytes from `position` on. -/
structure Utf8Fault where
  reason : Utf8Reason
  position : Nat
  count : Nat
  first : UInt8
  deriving DecidableEq, Repr

/-- The bytes that stand for one character. -/
def encodeChar (char : Char) : Bytes :=
  let code := char.toNat
  if code < 0x80 then [UInt8.ofNat code]
  else if code < 0x800 then [UInt8.ofNat (0xC0 + code / 0x40), UInt8.ofNat (0x80 + code % 0x40)]
  else if code < 0x10000 then
    [UInt8.ofNat (0xE0 + code / 0x1000), UInt8.ofNat (0x80 + code / 0x40 % 0x40),
      UInt8.ofNat (0x80 + code % 0x40)]
  else
    [UInt8.ofNat (0xF0 + code / 0x40000), UInt8.ofNat (0x80 + code / 0x1000 % 0x40),
      UInt8.ofNat (0x80 + code / 0x40 % 0x40), UInt8.ofNat (0x80 + code % 0x40)]

def encodeUtf8 (text : Text) : Bytes :=
  text.flatMap encodeChar

def isContinuation (byte : UInt8) : Bool :=
  0x80 ≤ byte && byte < 0xC0

/-- The second byte of a long form excludes overlong forms, surrogates and codes past the last. -/
def isSecond (first second : UInt8) : Bool :=
  isContinuation second &&
    !(first == 0xE0 && second < 0xA0) && !(first == 0xED && 0xA0 ≤ second) &&
    !(first == 0xF0 && second < 0x90) && !(first == 0xF4 && 0x90 ≤ second)

def lowBits (byte : UInt8) : Nat :=
  byte.toNat % 0x40

/-- The longest start of the bytes that can begin a character is faulty at its end. -/
def decodeFrom (position : Nat) : Bytes → Except Utf8Fault Text
  | [] => .ok []
  | first :: rest =>
    let fault (reason : Utf8Reason) (count : Nat) : Except Utf8Fault Text :=
      .error { reason, position, count, first }
    if first < 0x80 then do
      return Char.ofNat first.toNat :: (← decodeFrom (position + 1) rest)
    else if first < 0xC2 || 0xF5 ≤ first then fault .invalidStart 1
    else match rest with
    | [] => fault .unexpectedEnd 1
    | second :: rest =>
      if !isSecond first second then fault .invalidContinuation 1
      else if first < 0xE0 then do
        return Char.ofNat (first.toNat % 0x20 * 0x40 + lowBits second) ::
          (← decodeFrom (position + 2) rest)
      else match rest with
      | [] => fault .unexpectedEnd 2
      | third :: rest =>
        if !isContinuation third then fault .invalidContinuation 2
        else if first < 0xF0 then do
          return Char.ofNat (first.toNat % 0x10 * 0x1000 + lowBits second * 0x40 +
            lowBits third) :: (← decodeFrom (position + 3) rest)
        else match rest with
        | [] => fault .unexpectedEnd 3
        | fourth :: rest =>
          if !isContinuation fourth then fault .invalidContinuation 3
          else do
            return Char.ofNat (first.toNat % 8 * 0x40000 + lowBits second * 0x1000 +
              lowBits third * 0x40 + lowBits fourth) :: (← decodeFrom (position + 4) rest)

def decodeUtf8 (bytes : Bytes) : Except Utf8Fault Text :=
  decodeFrom 0 bytes

def Utf8Reason.message : Utf8Reason → Text
  | .invalidStart => "invalid start byte".toList
  | .invalidContinuation => "invalid continuation byte".toList
  | .unexpectedEnd => "unexpected end of data".toList

def Utf8Fault.message (fault : Utf8Fault) : Text :=
  let place :=
    if fault.count = 1 then
      "byte 0x".toList ++ hexadecimal 2 fault.first.toNat ++ " in position ".toList ++
        ofNat fault.position
    else
      "bytes in position ".toList ++ ofNat fault.position ++ '-' ::
        ofNat (fault.position + fault.count - 1)
  "'utf-8' codec can't decode ".toList ++ place ++ ": ".toList ++ fault.reason.message

/-- Every line ends in a line feed alone. -/
def unifyLineEnds : Text → Text
  | [] => []
  | '\r' :: '\n' :: rest => '\n' :: unifyLineEnds rest
  | char :: rest => (if char = '\r' then '\n' else char) :: unifyLineEnds rest

end Text

end QuadrantChart
