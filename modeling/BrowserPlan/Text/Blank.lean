/-
This file fixes which characters are blank and what it means to trim a text.

A blank is any white space of the standard's character table: the control characters that
move the carriage, the four information separators, the space, and the spaces and line or
paragraph separators outside ASCII. A zero-width space is no blank.
-/

import BrowserPlan.Text.Basic

namespace BrowserPlan.Text

/-! ### Blank characters -/

/-- Whether a character is white space. -/
def isBlank (char : Char) : Bool :=
  let code := char.toNat
  (9 ≤ code && code ≤ 13) || (28 ≤ code && code ≤ 32) || code == 0x85 || code == 0xa0 ||
    code == 0x1680 || (0x2000 ≤ code && code ≤ 0x200a) || code == 0x2028 || code == 0x2029 ||
    code == 0x202f || code == 0x205f || code == 0x3000

/-- The text after its leading blanks. -/
def dropBlanks (text : Text) : Text :=
  text.dropWhile isBlank

/-- The text after its leading blanks, of which there must be at least one. -/
def dropSomeBlanks? : Text → Option Text
  | [] => none
  | char :: text => if isBlank char then some (dropBlanks text) else none

/-- The text before its trailing blanks. -/
def trimRight (text : Text) : Text :=
  (text.reverse.dropWhile isBlank).reverse

/-- The text between its leading and its trailing blanks. -/
def trim (text : Text) : Text :=
  trimRight (dropBlanks text)

/-- Whether the text holds nothing but blanks. -/
def isAllBlank (text : Text) : Bool :=
  text.all isBlank

/-- The runs of characters between blanks. -/
def words (text : Text) : List Text :=
  (piecesAt isBlank text).filter (· ≠ [])

/-! ### Reading after blanks -/

/-- Reads after all leading blanks if that succeeds, and otherwise gives back one blank at a
time, the last one first. -/
def afterBlanks {Value : Type} (read : Text → Option Value) : Text → Option Value
  | [] => read []
  | char :: text =>
      if isBlank char then (afterBlanks read text).or (read (char :: text))
      else read (char :: text)

end BrowserPlan.Text
