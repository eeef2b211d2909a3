/-
This file holds the floating-point numbers of 64 bits by their bits, so that two of them are
equal exactly when nothing can tell them apart, and what their bits mean.
-/

import BrowserPlan.Text.Basic

namespace BrowserPlan

/-- A floating-point number of 64 bits. -/
structure Binary64 where
  bits : UInt64
  deriving DecidableEq, Repr, Inhabited

namespace Binary64

/-! ### Special numbers -/

/-- The number above all others. -/
def infinity : Binary64 :=
  ⟨0x7ff0000000000000⟩

/-- The number below all others. -/
def negativeInfinity : Binary64 :=
  ⟨0xfff0000000000000⟩

/-- What stands for no number. -/
def notANumber : Binary64 :=
  ⟨0x7ff8000000000000⟩

/-! ### From decimals -/

/-- The number nearest to `digits * 10 ^ exponent`. Beyond 400 powers of ten, which no number
reaches, the result is zero or infinite without a computation. -/
def ofDecimal (negative : Bool) (digits : Nat) (exponent : Int) : Binary64 :=
  let magnitude := exponent + (Text.ofNat digits).length
  let size : UInt64 :=
    if digits = 0 || magnitude < -400 then 0
    else if 400 < magnitude then infinity.bits
    else (Float.ofScientific digits (exponent < 0) exponent.natAbs).toBits
  ⟨if negative then size ||| 0x8000000000000000 else size⟩

/-! ### Meaning of the bits -/

/-- Whether the sign bit is set. -/
def isNegative (number : Binary64) : Bool :=
  0x8000000000000000 ≤ number.bits

/-- The eleven bits of the exponent. -/
def biasedExponent (number : Binary64) : Nat :=
  (number.bits >>> 52).toNat % 2048

/-- The fifty-two bits of the fraction. -/
def fraction (number : Binary64) : Nat :=
  number.bits.toNat % 0x10000000000000

/-- Whether the number is infinite or no number at all. -/
def isSpecial (number : Binary64) : Bool :=
  number.biasedExponent == 2047

/-- The significand of a finite number: its size is this times two to the power of `power`. -/
def significand (number : Binary64) : Nat :=
  if number.biasedExponent = 0 then number.fraction else number.fraction + 0x10000000000000

/-- The power of two that belongs to the significand. -/
def power (number : Binary64) : Int :=
  if number.biasedExponent = 0 then -1074 else (number.biasedExponent : Int) - 1075

/-- Whether the number is zero, of either sign. -/
def isZero (number : Binary64) : Bool :=
  !number.isSpecial && number.significand == 0

/-- The integer that the number is, if it is one. -/
def toInt? (number : Binary64) : Option Int :=
  if number.isSpecial then none
  else
    let signed (size : Nat) : Int := if number.isNegative then -size else size
    if 0 ≤ number.power then some (signed (number.significand * Nat.pow 2 number.power.toNat))
    else
      let divisor := Nat.pow 2 (-number.power).toNat
      if number.significand % divisor = 0 then some (signed (number.significand / divisor))
      else none

end Binary64

end BrowserPlan
