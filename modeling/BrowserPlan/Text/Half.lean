/-
This file holds half of a UTF-16 pair as a character.

Some formats can name such a half without the other one, although it is no character of its
own. It is held as a private character that lies a fixed distance above it, so a text may hold
halves, and two texts that differ in a half are different. Halves have no bytes in UTF-8.

The private characters that are used up for this are U+FD800 to U+FDFFF. In a text they always stand
for halves, so texts in which they mean themselves are left out.
-/

import BrowserPlan.Text.Basic

namespace BrowserPlan.Text

/-- The distance from a half to the character that stands for it. -/
def halfDistance : Nat :=
  0xf0000

/-- Whether a UTF-16 unit is half of a pair. -/
def isHalf (unit : Nat) : Bool :=
  0xd800 ≤ unit && unit < 0xe000

/-- A UTF-16 unit in four hexadecimal digits. -/
def hexUnit (unit : Nat) : Text :=
  [unit / 4096 % 16, unit / 256 % 16, unit / 16 % 16, unit % 16].map Nat.digitChar

/-- The character that stands for a half. -/
def ofHalf (unit : Nat) : Char :=
  Char.ofNat (unit + halfDistance)

/-- The half that a character stands for, if it does. -/
def half? (char : Char) : Option Nat :=
  if isHalf (char.toNat - halfDistance) && halfDistance ≤ char.toNat then
    some (char.toNat - halfDistance)
  else none

/-- A character in place of a UTF-16 unit. -/
def ofUnit (unit : Nat) : Char :=
  if isHalf unit then ofHalf unit else Char.ofNat unit

end BrowserPlan.Text
