/-
This file prints values: on one line for answers, and on indented lines for documents that
are kept in files. Fields are printed in their order, and empty containers on one line.

A string is printed between quotes with its control characters, quotes and backslashes
escaped; in the ASCII form every character outside the printable ASCII ones is escaped too,
in UTF-16 units.
-/

import BrowserPlan.Json.Basic
import BrowserPlan.Text.Half

namespace BrowserPlan.Json

/-! ### Strings -/

/-- The escape of a UTF-16 unit. -/
def escapeUnit (unit : Nat) : Text :=
  '\\' :: 'u' :: Text.hexUnit unit

/-- The escapes that have a letter or a sign of their own. -/
def shortEscape? (char : Char) : Option Text :=
  if char = '"' then some ['\\', '"']
  else if char = '\\' then some ['\\', '\\']
  else if char = '\n' then some ['\\', 'n']
  else if char = '\r' then some ['\\', 'r']
  else if char = '\t' then some ['\\', 't']
  else if char.toNat = 8 then some ['\\', 'b']
  else if char.toNat = 12 then some ['\\', 'f']
  else none

/-- A character of a printed string. -/
def printChar (char : Char) : Text :=
  match shortEscape? char with
  | some escape => escape
  | none => if char.toNat < 32 then escapeUnit char.toNat else [char]

/-- A character of a printed string in ASCII: one unit up to 65535 and two above, and half of a
UTF-16 pair as the unit that it is. -/
def printAsciiChar (char : Char) : Text :=
  match shortEscape? char with
  | some escape => escape
  | none =>
      let code := (Text.half? char).getD char.toNat
      if 32 ≤ code && code < 127 then [char]
      else if code < 0x10000 then escapeUnit code
      else
        escapeUnit (0xd800 + (code - 0x10000) / 0x400) ++
          escapeUnit (0xdc00 + (code - 0x10000) % 0x400)

/-- A string between quotes. -/
def printString (text : Text) : Text :=
  '"' :: text.flatMap printChar ++ ['"']

/-- A string between quotes, in ASCII. -/
def printAsciiString (text : Text) : Text :=
  '"' :: text.flatMap printAsciiChar ++ ['"']

/-! ### Numbers -/

/-- A printed number; the special floating-point numbers have names. -/
def printNumber : Number → Text
  | .integer value => Text.ofInt value
  | .real value =>
      if value.isSpecial then
        if value.fraction ≠ 0 then "NaN"
        else if value.isNegative then "-Infinity" else "Infinity"
      else value.toText

/-- A value without parts; a container gives its brackets. -/
def printLeaf : Json → Text
  | .null => "null"
  | .bool true => "true"
  | .bool false => "false"
  | .number value => printNumber value
  | .string text => printString text
  | .array _ => "[]"
  | .object _ => "\x7b\x7d"

/-! ### On one line -/

mutual

/-- A value on one line without blanks. -/
def print : Json → Text
  | .array (item :: items) => '[' :: print item ++ printItems items
  | .object ((name, value) :: fields) =>
      '\x7b' :: printString name ++ ':' :: print value ++ printFields fields
  | value => printLeaf value

/-- Prints the items behind the first, each with its comma, and the closing bracket. -/
def printItems : List Json → Text
  | [] => [']']
  | item :: items => ',' :: print item ++ printItems items

/-- Prints the fields behind the first, each with its comma, and the closing bracket. -/
def printFields : List (Text × Json) → Text
  | [] => ['\x7d']
  | (name, value) :: fields =>
      ',' :: printString name ++ ':' :: print value ++ printFields fields

end

/-! ### On indented lines -/

/-- A new line at a depth, two blanks for each level. -/
def newLine (depth : Nat) : Text :=
  '\n' :: List.replicate (2 * depth) ' '

mutual

/-- A value on indented lines, from the given depth on. -/
def printIndented (depth : Nat) : Json → Text
  | .array (item :: items) =>
      '[' :: newLine (depth + 1) ++ printIndented (depth + 1) item ++ printIndentedItems depth items
  | .object ((name, value) :: fields) =>
      '\x7b' :: newLine (depth + 1) ++ printString name ++ ": " ++
        printIndented (depth + 1) value ++ printIndentedFields depth fields
  | value => printLeaf value

/-- Prints the items behind the first, each on a line of its own, and the closing bracket. -/
def printIndentedItems (depth : Nat) : List Json → Text
  | [] => newLine depth ++ [']']
  | item :: items =>
      ',' :: newLine (depth + 1) ++ printIndented (depth + 1) item ++
        printIndentedItems depth items

/-- Prints the fields behind the first, each on a line of its own, and the closing bracket. -/
def printIndentedFields (depth : Nat) : List (Text × Json) → Text
  | [] => newLine depth ++ ['\x7d']
  | (name, value) :: fields =>
      ',' :: newLine (depth + 1) ++ printString name ++ ": " ++
        printIndented (depth + 1) value ++ printIndentedFields depth fields

end

/-- The text of a document that is kept in a file. -/
def printDocument (document : Json) : Text :=
  printIndented 0 document

end BrowserPlan.Json
