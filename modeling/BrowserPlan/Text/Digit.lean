/-
This file fixes the decimal digits of all scripts and how an integer is read from text.

The digits of a script stand at ten neighbouring code points in the order of their values,
so a script is given by its zero.
-/

import BrowserPlan.Text.Blank

namespace BrowserPlan.Text

/-! ### Digits -/

/-- The code points of the zeros of all scripts (version 14 of the standard). -/
def zeros : List Nat :=
  [0x30, 0x660, 0x6f0, 0x7c0, 0x966, 0x9e6, 0xa66, 0xae6, 0xb66, 0xbe6, 0xc66, 0xce6, 0xd66,
   0xde6, 0xe50, 0xed0, 0xf20, 0x1040, 0x1090, 0x17e0, 0x1810, 0x1946, 0x19d0, 0x1a80, 0x1a90,
   0x1b50, 0x1bb0, 0x1c40, 0x1c50, 0xa620, 0xa8d0, 0xa900, 0xa9d0, 0xa9f0, 0xaa50, 0xabf0,
   0xff10, 0x104a0, 0x10d30, 0x11066, 0x110f0, 0x11136, 0x111d0, 0x112f0, 0x11450, 0x114d0,
   0x11650, 0x116c0, 0x11730, 0x118e0, 0x11950, 0x11c50, 0x11d50, 0x11da0, 0x16a60, 0x16ac0,
   0x16b50, 0x1d7ce, 0x1d7d8, 0x1d7e2, 0x1d7ec, 0x1d7f6, 0x1e140, 0x1e2f0, 0x1e950, 0x1fbf0]

/-- The value of a decimal digit of any script. -/
def digitValue? (char : Char) : Option Nat :=
  (zeros.find? fun first => first ≤ char.toNat && char.toNat < first + 10).map (char.toNat - ·)

/-- Whether a character is a decimal digit of any script. -/
def isDigit (char : Char) : Bool :=
  (digitValue? char).isSome

/-! ### Integers -/

/-- A blank that may surround an integer: any blank but an information separator. -/
def isNumberBlank (char : Char) : Bool :=
  isBlank char && !(28 ≤ char.toNat && char.toNat ≤ 31)

/-- The most digits that a written integer may have. -/
def digitLimit : Nat :=
  4300

/-- Reads digits onto a value; single underscores may stand between digits. -/
def readDigits? (value : Nat) (afterDigit : Bool) : Text → Option Nat
  | [] => if afterDigit then some value else none
  | char :: text =>
      if char = '_' then
        if afterDigit then readDigits? value false text else none
      else
        match digitValue? char with
        | some digit => readDigits? (value * 10 + digit) true text
        | none => none

/-- Reads a whole text as an integer: blanks around it, an optional sign, digits of any
script. -/
def toInt? (text : Text) : Option Int :=
  let bare := ((text.dropWhile isNumberBlank).reverse.dropWhile isNumberBlank).reverse
  if digitLimit < (bare.filter isDigit).length then none
  else
    match bare with
    | '-' :: digits => (readDigits? 0 false digits).map fun value => -Int.ofNat value
    | '+' :: digits => (readDigits? 0 false digits).map Int.ofNat
    | digits => (readDigits? 0 false digits).map Int.ofNat

end BrowserPlan.Text
