/-
This file finds out in which encoding a printed value is written, and reads its bytes.

A printed value starts with ASCII characters, so the zeros among its first bytes tell how many
bytes a unit has and in which order they come. Half of a UTF-16 pair is kept, but a unit that
is cut off or that is no code point makes the bytes unreadable.
-/

import BrowserPlan.Text.Utf8

namespace BrowserPlan

/-- How a text is written in bytes. -/
inductive Encoding where
  | utf8
  | utf16 (bigEndian : Bool)
  | utf32 (bigEndian : Bool)
  deriving DecidableEq, Repr

namespace Encoding

/-- The encoding that the zeros among the first bytes tell. -/
def detect : List UInt8 → Encoding
  | 0 :: 0 :: _ :: _ :: _ => .utf32 true
  | 0 :: _ :: _ :: _ :: _ => .utf16 true
  | _ :: 0 :: 0 :: 0 :: _ => .utf32 false
  | _ :: 0 :: _ :: _ :: _ => .utf16 false
  | [0, _] => .utf16 true
  | [_, 0] => .utf16 false
  | _ => .utf8

/-- The number that bytes spell, the most significant one first. -/
def number (bytes : List UInt8) : Nat :=
  bytes.foldl (fun value byte => value * 256 + byte.toNat) 0

/-- The number that the bytes of a unit spell. -/
def unitOf (bigEndian : Bool) (bytes : List UInt8) : Nat :=
  number (if bigEndian then bytes else bytes.reverse)

/-- The units of two bytes each. -/
def units16? (bigEndian : Bool) : List UInt8 → Option (List Nat)
  | [] => some []
  | first :: second :: bytes =>
      (units16? bigEndian bytes).map (unitOf bigEndian [first, second] :: ·)
  | _ => none

/-- The units of four bytes each. -/
def units32? (bigEndian : Bool) : List UInt8 → Option (List Nat)
  | [] => some []
  | first :: second :: third :: fourth :: bytes =>
      (units32? bigEndian bytes).map (unitOf bigEndian [first, second, third, fourth] :: ·)
  | _ => none

/-- The text of UTF-16 units. -/
def joinPairs : List Nat → Text
  | [] => []
  | [unit] => [Text.ofUnit unit]
  | high :: low :: units =>
      if 0xd800 ≤ high && high < 0xdc00 && 0xdc00 ≤ low && low < 0xe000 then
        Char.ofNat (0x10000 + (high - 0xd800) * 0x400 + (low - 0xdc00)) :: joinPairs units
      else Text.ofUnit high :: joinPairs (low :: units)

/-- Reads bytes in an encoding, if they can be read. -/
def decode? (bytes : List UInt8) : Encoding → Option Text
  | .utf8 => (Utf8.decode bytes).toOption
  | .utf16 bigEndian => (units16? bigEndian bytes).map joinPairs
  | .utf32 bigEndian => do
      let units ← units32? bigEndian bytes
      if units.all (· < 0x110000) then return units.map Text.ofUnit else none

end Encoding

/-- Reads the bytes of a printed value; a byte order mark before them does not count. -/
def Text.ofBytes? (bytes : List UInt8) : Option Text :=
  (Encoding.decode? bytes (.detect bytes)).map fun text =>
    match Encoding.detect bytes, text with
    | .utf8, '\ufeff' :: text => text
    | _, text => text

end BrowserPlan
