/-
This file spells values out for messages and names.

Inside a message a string stands between single quotes, or between double quotes if it holds
a single quote and no double one; characters that are not printable are escaped. A string
that is used as a name stands for itself.
-/

import BrowserPlan.Json.Printer
import BrowserPlan.Text.Printable

namespace BrowserPlan.Json

/-! ### Strings between quotes -/

/-- The quote that surrounds a string. -/
def quoteOf (text : Text) : Char :=
  if text.contains '\'' && !text.contains '"' then '"' else '\''

/-- An escape of a code point, or of half of a UTF-16 pair, in the shortest of the three forms
that holds it. -/
def escapeCode (code : Nat) : Text :=
  if code < 0x100 then ['\\', 'x'] ++ (Text.hexUnit code).drop 2
  else if code < 0x10000 then '\\' :: 'u' :: Text.hexUnit code
  else '\\' :: 'U' :: Text.hexUnit (code / 0x10000) ++ Text.hexUnit (code % 0x10000)

/-- A character of a string between the given quotes. -/
def spellChar (quote char : Char) : Text :=
  if char = quote || char = '\\' then ['\\', char]
  else if char = '\n' then ['\\', 'n']
  else if char = '\r' then ['\\', 'r']
  else if char = '\t' then ['\\', 't']
  else if Text.isPrintable char then [char]
  else escapeCode ((Text.half? char).getD char.toNat)

/-- A string between quotes. -/
def spellString (text : Text) : Text :=
  let quote := quoteOf text
  quote :: text.flatMap (spellChar quote) ++ [quote]

/-! ### Values -/

/-- A value without parts; a container gives its brackets. -/
def spellLeaf : Json → Text
  | .null => "None"
  | .bool true => "True"
  | .bool false => "False"
  | .number value => value.toText
  | .string text => spellString text
  | .array _ => "[]"
  | .object _ => "\x7b\x7d"

mutual

/-- A value as it is spelled inside a message. -/
def spell : Json → Text
  | .array (item :: items) => '[' :: spell item ++ spellItems items
  | .object ((name, value) :: fields) =>
      '\x7b' :: spellString name ++ ": " ++ spell value ++ spellFields fields
  | value => spellLeaf value

/-- Spells the items behind the first and the closing bracket. -/
def spellItems : List Json → Text
  | [] => [']']
  | item :: items => ", " ++ spell item ++ spellItems items

/-- Spells the fields behind the first and the closing bracket. -/
def spellFields : List (Text × Json) → Text
  | [] => ['\x7d']
  | (name, value) :: fields =>
      ", " ++ spellString name ++ ": " ++ spell value ++ spellFields fields

end

/-- A value used as a name: a string stands for itself, any other value is spelled. -/
def nameText : Json → Text
  | .string text => text
  | value => spell value

end BrowserPlan.Json

namespace BrowserPlan

/-- What a kind of values is called. -/
def Kind.text : Kind → Text
  | .null => "NoneType"
  | .bool => "bool"
  | .integer => "int"
  | .real => "float"
  | .string => "str"
  | .array => "list"
  | .object => "dict"

end BrowserPlan
