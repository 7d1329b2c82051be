import RedemptionRelay.Text.Decimal

/-! # Floating point numbers

A floating point number has a mantissa of 53 bits at a power of two. A fraction
is rounded to the nearest one, a tie to the even mantissa; below the smallest
power the mantissa loses bits. As text it has fifteen significant digits.
-/

namespace RedemptionRelay

/-- The number `mantissa · 2 ^ exponent`, or its negative. -/
structure Floating where
  isNegative : Bool
  mantissa : Nat
  exponent : Int
deriving DecidableEq, Repr

namespace Floating

/-- The quotient rounded to the nearest whole number, a tie to the even one. -/
def roundEven (numerator denominator : Nat) : Nat :=
  let quotient := numerator / denominator
  let twice := 2 * (numerator % denominator)
  if twice < denominator || (twice == denominator && quotient % 2 == 0) then quotient
  else quotient + 1

def roundUp (numerator denominator : Nat) : Nat :=
  (2 * numerator + denominator) / (2 * denominator)

def scale (base : Nat) (power : Int) (fraction : Nat × Nat) : Nat × Nat :=
  let factor := Nat.pow base power.natAbs
  if power < 0 then (fraction.1, fraction.2 * factor) else (fraction.1 * factor, fraction.2)

def mantissaBound : Nat := 0x20000000000000

def leastExponent : Int := -1074

/-- The power of two at which a fraction has a mantissa of 53 bits. -/
def exponentFor (fraction : Nat × Nat) : Int :=
  let guess := (fraction.1.log2 : Int) - fraction.2.log2 - 53
  let (numerator, denominator) := scale 2 (-guess) fraction
  if numerator / denominator < mantissaBound then guess else guess + 1

def nearest (isNegative : Bool) (fraction : Nat × Nat) : Floating :=
  let exponent := max leastExponent (exponentFor fraction)
  let (numerator, denominator) := scale 2 (-exponent) fraction
  { isNegative := isNegative
    mantissa := roundEven numerator denominator
    exponent := exponent }

def ofDecimal (decimal : Decimal) : Floating :=
  if decimal.digits = 0 then { isNegative := decimal.isNegative, mantissa := 0, exponent := 0 }
  else nearest decimal.isNegative (scale 10 decimal.power (decimal.digits, 1))

def fraction (number : Floating) : Nat × Nat :=
  scale 2 number.exponent (number.mantissa, 1)

def whole? (number : Floating) : Option Int :=
  let (numerator, denominator) := number.fraction
  if numerator % denominator = 0 then
    let size := numerator / denominator
    some (if number.isNegative then -(size : Int) else size)
  else none

/-! ## Text -/

def significantDigits : Nat := 15

def magnitude (fraction : Nat × Nat) : Int :=
  let (numerator, denominator) := fraction
  let guess : Int := (Nat.toDigits 10 numerator).length - (Nat.toDigits 10 denominator).length
  let (scaled, unit) := scale 10 (-guess) fraction
  if scaled < unit then guess - 1 else guess

/-- The significant digits, rounded, and the power of ten of the first one. -/
def digitsOf (fraction : Nat × Nat) : List Char × Int :=
  let power := magnitude fraction
  let (numerator, denominator) := scale 10 (significantDigits - 1 - power) fraction
  let digits := Nat.toDigits 10 (roundUp numerator denominator)
  (digits.take significantDigits, power + digits.length - significantDigits)

/-- Digits behind a point, without closing zeros but for the first. -/
def fractionText (digits : List Char) : List Char :=
  match (digits.reverse.dropWhile (· == '0')).reverse with
  | [] => ['.', '0']
  | digits => '.' :: digits

def exponentText (power : Int) : List Char :=
  'e' :: (if power < 0 then '-' else '+') :: (Digits.padded 2 power.natAbs).toList

/-- Written with an exponent from 10 ^ 15 on and below 10 ^ -4. -/
def sizeText (fraction : Nat × Nat) : List Char :=
  let (digits, power) := digitsOf fraction
  if power < -4 || significantDigits ≤ power then
    digits.take 1 ++ fractionText (digits.drop 1) ++ exponentText power
  else if power < 0 then
    '0' :: fractionText (List.replicate (power.natAbs - 1) '0' ++ digits)
  else digits.take (power.toNat + 1) ++ fractionText (digits.drop (power.toNat + 1))

def text (number : Floating) : String :=
  if number.mantissa = 0 then "0.0"
  else
    let size := sizeText number.fraction
    String.ofList (if number.isNegative then '-' :: size else size)

end Floating

end RedemptionRelay
