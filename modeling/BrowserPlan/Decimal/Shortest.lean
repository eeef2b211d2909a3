/-
This file writes floating-point numbers with the fewest decimal digits that read back as the
same number, and of those the nearest.

The decimals that read back as a number form an interval: it reaches half way to the
neighbouring numbers and includes its ends exactly when the significand is even. For one,
two, … seventeen digits the two decimals around the number are tried, in exact arithmetic.
-/

import BrowserPlan.Decimal.Binary64

namespace BrowserPlan.Binary64

/-! ### The interval of a number -/

/-- A number, and the ends of the interval that reads back as it, over one denominator. -/
structure Span where
  low : Nat
  value : Nat
  high : Nat
  denominator : Nat
  closed : Bool

/-- The span of a finite number that is not zero. Below a power of two the lower neighbour is
only half as far away. -/
def span (number : Binary64) : Span :=
  let narrow := number.fraction = 0 && 1 < number.biasedExponent
  let value := number.significand * 4
  let low := if narrow then value - 1 else value - 2
  let exponent := number.power - 2
  let scale := Nat.pow 2 exponent.toNat
  { low := low * scale, value := value * scale, high := (value + 2) * scale
    denominator := Nat.pow 2 (-exponent).toNat, closed := number.significand % 2 = 0 }

/-- Whether `candidate / unit` lies in the span, for a denominator that was multiplied by
`factor` to make the comparison exact. -/
def Span.includes (span : Span) (candidate unit factor : Nat) : Bool :=
  let middle := candidate * unit
  if span.closed then span.low * factor ≤ middle && middle ≤ span.high * factor
  else span.low * factor < middle && middle < span.high * factor

/-! ### Digits -/

/-- The exponent of the leading decimal digit. -/
def Span.leading (span : Span) : Int :=
  if span.denominator ≤ span.value then
    ((Text.ofNat (span.value / span.denominator)).length : Int) - 1
  else
    match (List.range 400).find? fun places =>
        span.denominator ≤ span.value * Nat.pow 10 places with
    | some places => -(places : Int)
    | none => 0

/-- The nearer of the two decimals of `count` digits around the value that lies in the span,
as digits and the exponent of the last one. -/
def Span.tryDigits (span : Span) (count : Nat) : Option (Nat × Int) :=
  let last := span.leading - (count - 1 : Nat)
  let factor := Nat.pow 10 (-last).toNat
  let unit := span.denominator * Nat.pow 10 last.toNat
  let below := span.value * factor / unit
  let above := below + 1
  let distanceBelow := span.value * factor - below * unit
  let distanceAbove := above * unit - span.value * factor
  let belowNearer :=
    distanceBelow < distanceAbove || (distanceBelow == distanceAbove && below % 2 == 0)
  let first := if belowNearer then below else above
  let second := if belowNearer then above else below
  if span.includes first unit factor then some (first, last)
  else if span.includes second unit factor then some (second, last)
  else none

/-- The shortest digits of a finite number that is not zero, and the exponent of the last. -/
def shortest (number : Binary64) : Nat × Int :=
  (((List.range 17).findSome? fun count => number.span.tryDigits (count + 1))).getD (0, 0)

/-! ### The written form -/

/-- The digits without trailing zeros, and the exponent of the first of them. -/
def shortestDigits (number : Binary64) : Text × Int :=
  let (digits, last) := number.shortest
  let written := Text.ofNat digits
  ((written.reverse.dropWhile (· = '0')).reverse, last + written.length - 1)

/-- Digits with a point behind the first `places` of them; zeros fill the gaps, and at least
one digit stands on either side of the point. -/
def positional (digits : Text) (places : Int) : Text :=
  if places ≤ 0 then "0." ++ List.replicate (-places).toNat '0' ++ digits
  else
    let whole := digits.take places.toNat
    let rest := digits.drop places.toNat
    whole ++ List.replicate (places.toNat - digits.length) '0' ++ ['.'] ++
      (if rest = [] then ['0'] else rest)

/-- Digits with a point behind the first one, if there are more, and a signed exponent of at
least two digits. -/
def scientific (digits : Text) (exponent : Int) : Text :=
  let written := Text.ofNat exponent.natAbs
  digits.take 1 ++ (if 1 < digits.length then '.' :: digits.drop 1 else []) ++ ['e'] ++
    [if exponent < 0 then '-' else '+'] ++ List.replicate (2 - written.length) '0' ++ written

/-- A number in its shortest form: positional from 0.0001 up to below 10 ^ 16, and with an
exponent outside. -/
def toText (number : Binary64) : Text :=
  if number.isSpecial then
    if number.fraction ≠ 0 then "nan" else if number.isNegative then "-inf" else "inf"
  else
    let sign : Text := if number.isNegative then "-" else ""
    if number.isZero then sign ++ "0.0"
    else
      let (digits, exponent) := number.shortestDigits
      sign ++
        (if -4 ≤ exponent && exponent < 16 then positional digits (exponent + 1)
        else scientific digits exponent)

end BrowserPlan.Binary64
