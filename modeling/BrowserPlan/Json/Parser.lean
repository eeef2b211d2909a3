/-
This file reads printed values.

Blanks are the four that the format allows. The names of the special floating-point numbers
are read too. If an object names a field twice, the later value takes the place of the first.
A text that is no value has a fault at a position; the position is told to the reader as a
line and a column. There are limits to what is read: an integer must not have too many digits,
and arrays and objects must not lie too deep in each other.
-/

import BrowserPlan.Json.Basic
import BrowserPlan.Text.Digit
import BrowserPlan.Text.Half
import BrowserPlan.Text.Search

namespace BrowserPlan.Json

/-! ### Faults -/

/-- What can be wrong with a printed value. -/
inductive Problem where
  | byteOrderMark
  | value
  | fieldName
  | colon
  | comma
  | unfinishedString
  | controlCharacter
  | escape
  | unicodeEscape
  | extraData
  | manyDigits (count : Nat)
  | deepArray
  | deepObject
  deriving DecidableEq, Repr

/-- A problem and the position at which it was noticed. -/
structure Fault where
  problem : Problem
  position : Nat
  deriving DecidableEq, Repr

/-- A problem in words. -/
def Problem.text : Problem → Text
  | .byteOrderMark => "Unexpected UTF-8 BOM (decode using utf-8-sig)"
  | .value => "Expecting value"
  | .fieldName => "Expecting property name enclosed in double quotes"
  | .colon => "Expecting ':' delimiter"
  | .comma => "Expecting ',' delimiter"
  | .unfinishedString => "Unterminated string starting at"
  | .controlCharacter => "Invalid control character at"
  | .escape => "Invalid \\escape"
  | .unicodeEscape => "Invalid \\uXXXX escape"
  | .extraData => "Extra data"
  | .manyDigits count =>
      "Exceeds the limit (" ++ Text.ofNat Text.digitLimit ++
        " digits) for integer string conversion: value has " ++ Text.ofNat count ++
        " digits; use sys.set_int_max_str_digits() to increase the limit"
  | .deepArray =>
      "maximum recursion depth exceeded while decoding a JSON array from a unicode string"
  | .deepObject =>
      "maximum recursion depth exceeded while decoding a JSON object from a unicode string"

/-- Whether a text has the problem because it goes beyond a limit. -/
def Problem.isLimit : Problem → Bool
  | .manyDigits _ | .deepArray | .deepObject => true
  | _ => false

/-- A fault in words: a limit on its own, and any other problem with its line and column in the
source. -/
def Fault.message (fault : Fault) (source : Text) : Text :=
  if fault.problem.isLimit then fault.problem.text
  else
    let passed := source.take fault.position
    let column := (passed.reverse.takeWhile (· ≠ '\n')).length + 1
    fault.problem.text ++ ": line " ++ Text.ofNat (passed.count '\n' + 1) ++ " column " ++
      Text.ofNat column ++ " (char " ++ Text.ofNat fault.position ++ ")"

/-! ### Readers -/

/-- What a reader has found: a value, the position behind it and the text there. -/
abbrev Found (Value : Type) := Except Fault (Value × Nat × Text)

/-- Whether a character may stand between the signs of a printed value. -/
def isSpace (char : Char) : Bool :=
  char = ' ' || char = '\t' || char = '\n' || char = '\r'

/-- The position and the text behind blanks. -/
def skipSpaces : (position : Nat) → Text → Nat × Text
  | position, [] => (position, [])
  | position, char :: text =>
      if isSpace char then skipSpaces (position + 1) text else (position, char :: text)

/-! ### Strings -/

/-- The value of a hexadecimal digit. -/
def hexValue? (char : Char) : Option Nat :=
  if '0' ≤ char && char ≤ '9' then some (char.toNat - 48)
  else if 'a' ≤ char && char ≤ 'f' then some (char.toNat - 87)
  else if 'A' ≤ char && char ≤ 'F' then some (char.toNat - 55)
  else none

/-- The UTF-16 unit that four hexadecimal digits spell. -/
def unit? (text : Text) : Option Nat :=
  match (text.take 4).mapM hexValue? with
  | some [a, b, c, d] => some (((a * 16 + b) * 16 + c) * 16 + d)
  | _ => none

/-- The character that a sign after a backslash stands for. -/
def shortEscapeValue? (char : Char) : Option Char :=
  match char with
  | '"' => some '"'
  | '\\' => some '\\'
  | '/' => some '/'
  | 'b' => some '\x08'
  | 'f' => some '\x0c'
  | 'n' => some '\n'
  | 'r' => some '\r'
  | 't' => some '\t'
  | _ => none

/-- Reads the escape behind a backslash at `position`: its character and its length. A unit
from the upper half of a pair is joined with the lower half if that follows; a half that stands
alone is kept. -/
def readEscape (start position : Nat) : Text → Except Fault (Char × Nat)
  | [] => .error ⟨.unfinishedString, start⟩
  | 'u' :: text =>
      if text.length < 5 then .error ⟨.unicodeEscape, position + 1⟩
      else
        match unit? text with
        | none => .error ⟨.unicodeEscape, position + 1⟩
        | some unit =>
            let alone := Text.ofUnit unit
            match text.drop 4 with
            | '\\' :: 'u' :: second =>
                if 0xd800 ≤ unit && unit < 0xdc00 && 5 ≤ second.length then
                  match unit? second with
                  | none => .error ⟨.unicodeEscape, position + 7⟩
                  | some low =>
                      if 0xdc00 ≤ low && low < 0xe000 then
                        .ok (Char.ofNat (0x10000 + (unit - 0xd800) * 0x400 + (low - 0xdc00)), 11)
                      else .ok (alone, 5)
                else .ok (alone, 5)
            | _ => .ok (alone, 5)
  | char :: _ =>
      match shortEscapeValue? char with
      | some value => .ok (value, 1)
      | none => .error ⟨.escape, position⟩

/-- Reads a string that was opened at `start`, from `position` on and passing over the next
`skipped` characters. -/
def readString (start : Nat) : (skipped position : Nat) → Text → Found Text
  | _, _, [] => .error ⟨.unfinishedString, start⟩
  | skipped + 1, position, _ :: text => readString start skipped (position + 1) text
  | 0, position, char :: text =>
      if char = '"' then .ok ([], position + 1, text)
      else if char = '\\' then
        match readEscape start position text with
        | .error fault => .error fault
        | .ok (value, length) =>
            (readString start length (position + 1) text).map
              fun (chars, found) => (value :: chars, found)
      else if char.toNat < 32 then .error ⟨.controlCharacter, position⟩
      else
        (readString start 0 (position + 1) text).map fun (chars, found) => (char :: chars, found)

/-! ### Numbers -/

/-- The digits at the start of a text and what follows them. -/
def spanDigits (text : Text) : Text × Text :=
  (text.takeWhile Char.isDigit, text.dropWhile Char.isDigit)

/-- The value of a run of digits. -/
def digitsValue (digits : Text) : Nat :=
  digits.foldl (fun value digit => value * 10 + (digit.toNat - 48)) 0

/-- The digits behind a point, if a digit follows it. -/
def readFraction (text : Text) : Text × Text :=
  match text with
  | '.' :: rest => if (spanDigits rest).1 = [] then ([], text) else spanDigits rest
  | _ => ([], text)

/-- The exponent behind its letter, if a digit follows the letter and the sign. -/
def readExponent (text : Text) : Option (Int × Text) :=
  let unsigned (sign : Int) (text : Text) : Option (Int × Text) :=
    if (spanDigits text).1 = [] then none
    else some (sign * digitsValue (spanDigits text).1, (spanDigits text).2)
  match text with
  | [] => none
  | letter :: text =>
      if letter = 'e' || letter = 'E' then
        match text with
        | '-' :: text => unsigned (-1) text
        | '+' :: text => unsigned 1 text
        | text => unsigned 1 text
      else none

/-- The integer of a run of digits, of which there must not be too many. -/
def integerOf (negative : Bool) (digits : Text) : Except Problem Number :=
  if Text.digitLimit < digits.length then .error (.manyDigits digits.length)
  else .ok (.integer (if negative then -digitsValue digits else digitsValue digits))

/-- Reads a number without its sign: an integer part that does not start with a superfluous
zero, and a fraction and an exponent if they are there. -/
def readUnsigned (negative : Bool) (text : Text) : Except Problem (Number × Text) :=
  let whole : Option (Text × Text) :=
    match text with
    | '0' :: rest => some (['0'], rest)
    | _ => if (spanDigits text).1 = [] then none else some (spanDigits text)
  match whole with
  | none => .error .value
  | some (digits, rest) =>
      let (places, rest) := readFraction rest
      match readExponent rest with
      | some (exponent, rest) =>
          let value := digitsValue (digits ++ places)
          .ok (.real (.ofDecimal negative value (exponent - places.length)), rest)
      | none =>
          if places = [] then (integerOf negative digits).map fun number => (number, rest)
          else
            let value := digitsValue (digits ++ places)
            .ok (.real (.ofDecimal negative value (-places.length)), rest)

/-- Reads a number with its sign, if it has one. -/
def readNumber : Text → Except Problem (Number × Text)
  | '-' :: text => readUnsigned true text
  | text => readUnsigned false text

/-- The values that are written as words. -/
def words : List (Text × Json) :=
  [("null", .null), ("true", .bool true), ("false", .bool false),
    ("NaN", .number (.real .notANumber)), ("Infinity", .number (.real .infinity)),
    ("-Infinity", .number (.real .negativeInfinity))]

/-- Reads a word or a number. -/
def readAtom (position : Nat) (text : Text) : Found Json :=
  let ended (value : Json) (rest : Text) : Found Json :=
    .ok (value, position + (text.length - rest.length), rest)
  match words.findSome? fun (word, value) => (Text.after? word text).map (Prod.mk value) with
  | some (value, rest) => ended value rest
  | none =>
      match readNumber text with
      | .ok (value, rest) => ended (.number value) rest
      | .error problem => .error ⟨problem, position⟩

/-! ### Values -/

/-- The most arrays and objects that may lie in each other. -/
def depthLimit : Nat :=
  970

mutual

/-- Reads a value in which at most `depth` arrays and objects may lie in each other; `fuel`
bounds the depth of the recursion. -/
def readValue : (fuel depth position : Nat) → Text → Found Json
  | 0, _, position, _ => .error ⟨.value, position⟩
  | fuel + 1, depth, position, text =>
      match text with
      | '"' :: text =>
          (readString position 0 (position + 1) text).map
            fun (chars, found) => (.string chars, found)
      | '[' :: text =>
          if depth = 0 then .error ⟨.deepArray, position⟩
          else
            let (position, text) := skipSpaces (position + 1) text
            match text with
            | ']' :: text => .ok (.array [], position + 1, text)
            | text =>
                (readItems fuel (depth - 1) position text).map
                  fun (items, found) => (.array items, found)
      | '\x7b' :: text =>
          if depth = 0 then .error ⟨.deepObject, position⟩
          else
            let (position, text) := skipSpaces (position + 1) text
            match text with
            | '\x7d' :: text => .ok (.object [], position + 1, text)
            | text =>
                (readFields fuel (depth - 1) [] position text).map
                  fun (fields, found) => (.object fields, found)
      | text => readAtom position text

/-- Reads the items of an array up to its end. -/
def readItems : (fuel depth position : Nat) → Text → Found (List Json)
  | 0, _, position, _ => .error ⟨.value, position⟩
  | fuel + 1, depth, position, text =>
      match readValue fuel depth position text with
      | .error fault => .error fault
      | .ok (item, position, text) =>
          let (position, text) := skipSpaces position text
          match text with
          | ']' :: text => .ok ([item], position + 1, text)
          | ',' :: text =>
              let (position, text) := skipSpaces (position + 1) text
              (readItems fuel depth position text).map fun (items, found) => (item :: items, found)
          | _ => .error ⟨.comma, position⟩

/-- Reads the fields of an object up to its end, after those already read. -/
def readFields : (fuel depth : Nat) → List (Text × Json) → (position : Nat) → Text →
    Found (List (Text × Json))
  | 0, _, _, position, _ => .error ⟨.value, position⟩
  | fuel + 1, depth, fields, position, text =>
      match text with
      | '"' :: text =>
          match readString position 0 (position + 1) text with
          | .error fault => .error fault
          | .ok (name, position, text) =>
              let (position, text) := skipSpaces position text
              match text with
              | ':' :: text =>
                  let (position, text) := skipSpaces (position + 1) text
                  match readValue fuel depth position text with
                  | .error fault => .error fault
                  | .ok (value, position, text) =>
                      let fields := putField name value fields
                      let (position, text) := skipSpaces position text
                      match text with
                      | '\x7d' :: text => .ok (fields, position + 1, text)
                      | ',' :: text =>
                          let (position, text) := skipSpaces (position + 1) text
                          readFields fuel depth fields position text
                      | _ => .error ⟨.comma, position⟩
              | _ => .error ⟨.colon, position⟩
      | _ => .error ⟨.fieldName, position⟩

end

/-- Reads a text that is one printed value between blanks. -/
def parsePlain (text : Text) : Except Fault Json :=
  let (position, rest) := skipSpaces 0 text
  match readValue (2 * text.length + 2) depthLimit position rest with
  | .error fault => .error fault
  | .ok (value, position, rest) =>
      let (position, rest) := skipSpaces position rest
      if rest = [] then .ok value else .error ⟨.extraData, position⟩

/-- Reads a text that is one printed value between blanks; a text that starts with a byte order
mark is refused with a hint. -/
def parse (text : Text) : Except Fault Json :=
  match text with
  | '\ufeff' :: _ => .error ⟨.byteOrderMark, 0⟩
  | _ => parsePlain text

end BrowserPlan.Json
