/-
This file reads Java string literals and decodes their escapes.

Between its quotes a literal holds characters that are neither a quote nor a backslash, and
pairs of a backslash and any character but a newline. Eight pairs have a meaning; every other
one stands for itself.
-/

import BrowserPlan.Text.Search

namespace BrowserPlan.Java

open Text (Reader)

/-! ### Escapes -/

/-- The character that a pair of a backslash and the given character means. -/
def escapeMeaning? (char : Char) : Option Char :=
  match char with
  | 'n' => some '\n'
  | 't' => some '\t'
  | 'r' => some '\r'
  | 'b' => some '\x08'
  | 'f' => some '\x0c'
  | '"' => some '"'
  | '\'' => some '\''
  | '\\' => some '\\'
  | _ => none

/-- The contents of a literal with its escapes decoded, in one pass. -/
def unescape : Text → Text
  | [] => []
  | [char] => [char]
  | first :: second :: text =>
      if first = '\\' then
        match escapeMeaning? second with
        | some meaning => meaning :: unescape text
        | none => first :: second :: unescape text
      else first :: unescape (second :: text)

/-! ### Reading literals -/

/-- Reads the contents of a literal behind its opening quote, up to its closing one. -/
def readContents : Reader Text
  | [] => none
  | [char] => if char = '"' then some ([], []) else none
  | first :: second :: text =>
      if first = '"' then some ([], second :: text)
      else if first = '\\' then
        if second = '\n' then none
        else
          (readContents text).map fun (contents, rest) => (first :: second :: contents, rest)
      else (readContents (second :: text)).map fun (contents, rest) => (first :: contents, rest)

/-- Reads a literal: its contents as written. -/
def readLiteral : Reader Text
  | '"' :: text => readContents text
  | _ => none

/-- The contents of a text that is exactly one literal. -/
def wholeLiteral? (text : Text) : Option Text :=
  match readLiteral text with
  | some (contents, []) => some contents
  | _ => none

end BrowserPlan.Java
