/-
This file reads bytes as UTF-8 and says what is wrong with bytes that are none.

The reader is a machine that takes one byte at a time. Between characters it waits for a
first byte; inside a character it knows how many bytes are still owed and the range of the
next one, which is narrower than usual after the four first bytes that could otherwise spell
a character twice, half of a UTF-16 pair or a code point that is too large. A fault names the
bytes of the unfinished character. Where faults do not matter, a mark takes the place of the
bytes that one names, and reading goes on behind them.

A text has no bytes if it holds half of a UTF-16 pair; the fault names the run of halves.
-/

import BrowserPlan.Text.Half

namespace BrowserPlan.Utf8

/-! ### Faults -/

/-- Why bytes are no UTF-8. -/
inductive Reason where
  | invalidStart
  | invalidContinuation
  | unexpectedEnd
  deriving DecidableEq, Repr

/-- A fault: the position and value of the first byte of the character that cannot be read,
and how many bytes of it were there. -/
structure Fault where
  position : Nat
  first : UInt8
  count : Nat
  reason : Reason
  deriving DecidableEq, Repr

/-- What a reason is called. -/
def Reason.text : Reason → Text
  | .invalidStart => "invalid start byte"
  | .invalidContinuation => "invalid continuation byte"
  | .unexpectedEnd => "unexpected end of data"

/-- Two hexadecimal digits. -/
def hexByte (byte : UInt8) : Text :=
  [Nat.digitChar (byte.toNat / 16), Nat.digitChar (byte.toNat % 16)]

/-- A fault in words: a single byte is shown with its value, several by their positions. -/
def Fault.message (fault : Fault) : Text :=
  let place : Text :=
    if fault.count = 1 then
      "byte 0x" ++ hexByte fault.first ++ " in position " ++ Text.ofNat fault.position
    else
      "bytes in position " ++ Text.ofNat fault.position ++ "-" ++
        Text.ofNat (fault.position + fault.count - 1)
  "'utf-8' codec can't decode " ++ place ++ ": " ++ fault.reason.text

/-! ### Reading -/

/-- A character of which some bytes have been read. -/
structure Unfinished where
  position : Nat
  first : UInt8
  count : Nat
  owed : Nat
  lowest : UInt8
  highest : UInt8
  code : Nat
  deriving Repr

/-- What a first byte from 128 on announces, if it is one. -/
def announce (position : Nat) (byte : UInt8) : Option Unfinished :=
  let opened (owed : Nat) (lowest highest : UInt8) (code : Nat) : Unfinished :=
    { position, first := byte, count := 1, owed, lowest, highest, code }
  if 0xc2 ≤ byte && byte ≤ 0xdf then some (opened 1 0x80 0xbf (byte.toNat - 0xc0))
  else if byte == 0xe0 then some (opened 2 0xa0 0xbf 0)
  else if byte == 0xed then some (opened 2 0x80 0x9f 13)
  else if 0xe1 ≤ byte && byte ≤ 0xef then some (opened 2 0x80 0xbf (byte.toNat - 0xe0))
  else if byte == 0xf0 then some (opened 3 0x90 0xbf 0)
  else if 0xf1 ≤ byte && byte ≤ 0xf3 then some (opened 3 0x80 0xbf (byte.toNat - 0xf0))
  else if byte == 0xf4 then some (opened 3 0x80 0x8f 4)
  else none

/-- The fault of an unfinished character. -/
def Unfinished.fault (character : Unfinished) (reason : Reason) : Fault :=
  { position := character.position, first := character.first, count := character.count, reason }

/-- What comes of reading one byte. -/
inductive Progress where
  | finished (char : Char)
  | unfinished (character : Unfinished)
  | refused
  deriving Repr

/-- Reads the first byte of a character. -/
def startWith (position : Nat) (byte : UInt8) : Progress :=
  if byte < 0x80 then .finished (Char.ofNat byte.toNat)
  else
    match announce position byte with
    | some character => .unfinished character
    | none => .refused

/-- Reads the next byte of a character. -/
def Unfinished.next (character : Unfinished) (byte : UInt8) : Progress :=
  if character.lowest ≤ byte && byte ≤ character.highest then
    let code := character.code * 64 + (byte.toNat - 0x80)
    if character.owed ≤ 1 then .finished (Char.ofNat code)
    else
      .unfinished { character with
        count := character.count + 1, owed := character.owed - 1, lowest := 0x80,
        highest := 0xbf, code }
  else .refused

/-- Reads bytes from `position` on, inside a character if one is unfinished. -/
def decodeFrom : (position : Nat) → Option Unfinished → List UInt8 → Except Fault Text
  | _, none, [] => .ok []
  | _, some character, [] => .error (character.fault .unexpectedEnd)
  | position, none, byte :: bytes =>
      match startWith position byte with
      | .finished char => (decodeFrom (position + 1) none bytes).map (char :: ·)
      | .unfinished character => decodeFrom (position + 1) (some character) bytes
      | .refused => .error { position, first := byte, count := 1, reason := .invalidStart }
  | position, some character, byte :: bytes =>
      match character.next byte with
      | .finished char => (decodeFrom (position + 1) none bytes).map (char :: ·)
      | .unfinished character => decodeFrom (position + 1) (some character) bytes
      | .refused => .error (character.fault .invalidContinuation)

/-- Reads bytes as UTF-8 text. -/
def decode (bytes : List UInt8) : Except Fault Text :=
  decodeFrom 0 none bytes

/-- What takes the place of bytes that are no character. -/
def mark : Char :=
  '\ufffd'

/-- Reads bytes, inside a character if one is unfinished, with marks in place of faults. A byte
that does not fit an unfinished character is read as the first one of the next. -/
def repairFrom : Option Unfinished → List UInt8 → Text
  | none, [] => []
  | some _, [] => [mark]
  | none, byte :: bytes =>
      match startWith 0 byte with
      | .finished char => char :: repairFrom none bytes
      | .unfinished character => repairFrom (some character) bytes
      | .refused => mark :: repairFrom none bytes
  | some character, byte :: bytes =>
      match character.next byte with
      | .finished char => char :: repairFrom none bytes
      | .unfinished character => repairFrom (some character) bytes
      | .refused =>
          match startWith 0 byte with
          | .finished char => mark :: char :: repairFrom none bytes
          | .unfinished character => mark :: repairFrom (some character) bytes
          | .refused => mark :: mark :: repairFrom none bytes

/-- Reads bytes as UTF-8 text with marks in place of faults. -/
def repair (bytes : List UInt8) : Text :=
  repairFrom none bytes

/-! ### Writing -/

/-- The number of bytes of a text in UTF-8. -/
def size : Text → Nat
  | [] => 0
  | char :: chars => char.utf8Size + size chars

/-- The bytes of a character in UTF-8. -/
def encodeChar (char : Char) : List UInt8 :=
  (String.singleton char).toUTF8.toList

/-- The bytes of a text in UTF-8. -/
def encode (text : Text) : List UInt8 :=
  text.flatMap encodeChar

/-- Why a text has no bytes: the position of a half, the half, and how many stand there in a
row. -/
structure HalfFault where
  position : Nat
  first : Nat
  count : Nat
  deriving DecidableEq, Repr

/-- The run of halves that starts with a character, apart from a half that is held by a byte. -/
def halfRun? (isHeld : Nat → Bool) (position : Nat) (char : Char) (text : Text) :
    Option HalfFault :=
  ((Text.half? char).filter fun unit => !isHeld unit).map fun first =>
    let others := text.takeWhile fun char => (Text.half? char).isSome
    { position, first, count := others.length + 1 }

/-- The first run of halves from `position` on, apart from those that are held by a byte. -/
def halfFaultFrom (isHeld : Nat → Bool) : (position : Nat) → Text → Option HalfFault
  | _, [] => none
  | position, char :: text =>
      (halfRun? isHeld position char text).or (halfFaultFrom isHeld (position + 1) text)

/-- Why a text has no bytes, if it has none. -/
def halfFault? (text : Text) : Option HalfFault :=
  halfFaultFrom (fun _ => false) 0 text

/-- Whether a half stands for a byte in the name of a file. -/
def isNameByte (unit : Nat) : Bool :=
  0xdc80 ≤ unit && unit < 0xdd00

/-- Why the name of a file has no bytes, if it has none. -/
def nameFault? (name : Text) : Option HalfFault :=
  halfFaultFrom isNameByte 0 name

/-- A fault in words: a single half is shown, several by their positions. -/
def HalfFault.message (fault : HalfFault) : Text :=
  let place : Text :=
    if fault.count = 1 then
      "character '\\u" ++ Text.hexUnit fault.first ++ "' in position " ++ Text.ofNat fault.position
    else
      "characters in position " ++ Text.ofNat fault.position ++ "-" ++
        Text.ofNat (fault.position + fault.count - 1)
  "'utf-8' codec can't encode " ++ place ++ ": surrogates not allowed"

end BrowserPlan.Utf8
