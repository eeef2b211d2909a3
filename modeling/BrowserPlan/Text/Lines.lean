/-
This file fixes where lines end. A file that is read has one kind of line end, the newline;
the output of another program is cut at every character that ends a line on any system.
-/

import BrowserPlan.Text.Blank

namespace BrowserPlan.Text

/-- The text with every carriage return, alone or before a newline, read as a newline. -/
def withPlainNewlines : Text → Text
  | [] => []
  | '\r' :: '\n' :: text => '\n' :: withPlainNewlines text
  | '\r' :: text => '\n' :: withPlainNewlines text
  | char :: text => char :: withPlainNewlines text

/-- Whether a character ends a line on any system. -/
def isLineBreak (char : Char) : Bool :=
  let code := char.toNat
  (10 ≤ code && code ≤ 13) || (28 ≤ code && code ≤ 30) || code == 0x85 || code == 0x2028 ||
    code == 0x2029

/-- The lines of a text, trimmed, without those that are blank. -/
def filledLines (text : Text) : List Text :=
  ((piecesAt isLineBreak text).map trim).filter (· ≠ [])

end BrowserPlan.Text
