/-
This file reads the addresses that requests are sent to.

An address may start with a scheme and a host, which do not count here. Its path ends before a
query or a fragment. Parts of the path that are one or two points are followed, and then the
bytes that are written as percent signs and digits are decoded, twice over.
-/

import BrowserPlan.Json.Parser
import BrowserPlan.Json.Spelling
import BrowserPlan.Text.Utf8

namespace BrowserPlan.Http

/-! ### Faults -/

/-- Why nothing can be sent to an address. -/
inductive AddressFault where
  | tooLong
  | control (char : Char) (position : Nat)
  | startsWithSlashes
  | startsWithColon
  deriving DecidableEq, Repr

/-- A fault in words. -/
def AddressFault.message : AddressFault → Text
  | .tooLong => "URL too long"
  | .control char position =>
      "Invalid non-printable ASCII character in URL, " ++ Json.spellString [char] ++
        " at position " ++ Text.ofNat position ++ "."
  | .startsWithSlashes => "Relative URLs cannot have a path starting with '//'"
  | .startsWithColon => "Relative URLs cannot have a path starting with ':'"

/-- The most characters of an address. -/
def addressLimit : Nat :=
  65536

/-- Whether a character has no place in an address. -/
def isControl (char : Char) : Bool :=
  char.toNat < 32 || char.toNat = 127

/-! ### Parts of an address -/

/-- The scheme of an address, which may be empty, and what follows its colon. -/
def splitScheme (address : Text) : Text × Text :=
  let name := address.takeWhile fun char => char.isAlphanum || "+.-".toList.contains char
  match address.drop name.length with
  | ':' :: rest => if name.head?.all Char.isAlpha then (name, rest) else ([], address)
  | _ => ([], address)

/-- The host of an address, which stands behind two slashes, and what follows it. -/
def splitHost (address : Text) : Text × Text :=
  match address with
  | '/' :: '/' :: rest =>
      let isHost (char : Char) : Bool := !"/?#".toList.contains char
      (rest.takeWhile isHost, rest.dropWhile isHost)
  | _ => ([], address)

/-- What stands before the query and the fragment. -/
def beforeQuery (address : Text) : Text :=
  address.takeWhile fun char => char ≠ '?' && char ≠ '#'

/-- The path of an address, from its first slash on. Without a scheme and a host it must not
start with two slashes or a colon. -/
def pathOf (address : Text) : Except AddressFault Text :=
  let (scheme, rest) := splitScheme address
  let (host, rest) := splitHost rest
  let path := beforeQuery rest
  let bare := scheme = [] && host = []
  match path with
  | '/' :: '/' :: _ =>
      if bare then .error .startsWithSlashes
      else if scheme ≠ [] && host ≠ [] then .ok path
      else .ok ('/' :: path.dropWhile (· = '/'))
  | ':' :: _ => if bare then .error .startsWithColon else .ok ('/' :: path)
  | _ => .ok ('/' :: path.dropWhile (· = '/'))

/-- The path of an address that is not too long and holds no control characters. -/
def checkedPath (address : Text) : Except AddressFault Text :=
  let before := address.takeWhile fun char => !isControl char
  if addressLimit < address.length then .error .tooLong
  else
    match address.drop before.length with
    | char :: _ => .error (.control char before.length)
    | [] => pathOf address

/-! ### Points -/

/-- Follows the parts of a path: one point stays and two go back, but not beyond the start. -/
def followPoints (passed : List Text) : List Text → List Text
  | [] => passed.reverse
  | part :: parts =>
      if part = ['.'] then followPoints passed parts
      else if part = ['.', '.'] then
        followPoints (if passed = [[]] then passed else passed.drop 1) parts
      else followPoints (part :: passed) parts

/-- A path without parts that are points. -/
def withoutPoints (path : Text) : Text :=
  let parts := Text.piecesAt (· = '/') path
  if parts.any fun part => part = ['.'] || part = ['.', '.'] then
    Text.join ['/'] (followPoints [] parts)
  else path

/-! ### Percent signs -/

/-- The byte that two hexadecimal digits spell. -/
def byteOf? (first second : Char) : Option UInt8 := do
  return UInt8.ofNat ((← Json.hexValue? first) * 16 + (← Json.hexValue? second))

/-- The bytes of a path, in which a byte may be written as a percent sign and two digits. -/
def pathBytes : Text → List UInt8
  | '%' :: first :: second :: text =>
      match byteOf? first second with
      | some byte => byte :: pathBytes text
      | none => Utf8.encodeChar '%' ++ pathBytes (first :: second :: text)
  | char :: text => Utf8.encodeChar char ++ pathBytes text
  | [] => []

/-- A path with its bytes decoded. -/
def decoded (path : Text) : Text :=
  Utf8.repair (pathBytes path)

/-- A path as it is meant. -/
def plainPath (path : Text) : Text :=
  decoded (decoded (withoutPoints (beforeQuery path)))

end BrowserPlan.Http
