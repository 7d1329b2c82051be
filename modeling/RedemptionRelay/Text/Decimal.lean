import RedemptionRelay.Text.Digits
import RedemptionRelay.Width

/-! # Decimal notation

A decimal number is a whole number of digits at a power of ten. It is written
with an optional sign, digits around an optional point and an optional
exponent, with spaces around it. Only as many leading digits count as fit into
64 bits together with one more.
-/

namespace RedemptionRelay

/-- The number `digits · 10 ^ power`, or its negative. -/
structure Decimal where
  isNegative : Bool
  digits : Nat
  power : Int
deriving DecidableEq, Repr

namespace Decimal

def isSpace (c : Char) : Bool :=
  c == ' ' || (0x09 ≤ c.toNat && c.toNat ≤ 0x0d)

def trimSpaces (chars : List Char) : List Char :=
  ((chars.dropWhile isSpace).reverse.dropWhile isSpace).reverse

def takeSign : List Char → Bool × List Char
  | '-' :: rest => (true, rest)
  | '+' :: rest => (false, rest)
  | chars => (false, chars)

def takeDigits (chars : List Char) : List Char × List Char :=
  (chars.takeWhile Digits.isDecimal, chars.dropWhile Digits.isDecimal)

def takeMantissa (chars : List Char) : (List Char × Option (List Char)) × List Char :=
  let (whole, rest) := takeDigits chars
  match rest with
  | '.' :: rest =>
      let (fraction, rest) := takeDigits rest
      ((whole, some fraction), rest)
  | rest => ((whole, none), rest)

/-- The largest exponent; anything beyond is as good as this. -/
def exponentLimit : Nat := 10000

def exponent? : List Char → Option (Option Int)
  | [] => some none
  | mark :: rest =>
      if mark = 'e' ∨ mark = 'E' then do
        let (isNegative, digits) := takeSign rest
        let size ← Digits.read? 10 digits
        let size := min size exponentLimit
        return some (if isNegative then -(size : Int) else size)
      else none

def fullness : Nat := (Width.max64 - 9) / 10

def digitValue (c : Char) : Nat :=
  (Digits.digitValue? 10 c).getD 0

/-- Digits before the point move it once there is no room for them. -/
def appendWhole (number : Nat × Int) (c : Char) : Nat × Int :=
  if number.1 < fullness then (number.1 * 10 + digitValue c, number.2)
  else (number.1, number.2 + 1)

/-- Digits behind the point are left out once there is no room for them. -/
def appendFraction (number : Nat × Int) (c : Char) : Nat × Int :=
  if number.1 < fullness then (number.1 * 10 + digitValue c, number.2 - 1)
  else number

structure Spelling where
  isNegative : Bool
  whole : List Char
  fraction : Option (List Char)
  exponent : Option Int

namespace Spelling

def ofText? (text : String) : Option Spelling := do
  let (isNegative, rest) := takeSign (trimSpaces text.toList)
  let ((whole, fraction), rest) := takeMantissa rest
  let exponent ← exponent? rest
  if whole.isEmpty && (fraction.getD []).isEmpty then none
  else return { isNegative, whole, fraction, exponent }

def isPlain (written : Spelling) : Bool :=
  written.fraction.isNone && written.exponent.isNone

def plainValue (written : Spelling) : Int :=
  let size := (Digits.read? 10 written.whole).getD 0
  if written.isNegative then -(size : Int) else size

def value (written : Spelling) : Decimal :=
  let whole := written.whole.foldl appendWhole (0, 0)
  let (digits, power) := (written.fraction.getD []).foldl appendFraction whole
  { isNegative := written.isNegative
    digits := digits
    power := power + written.exponent.getD 0 }

def exactValue (written : Spelling) : Decimal :=
  let fraction := written.fraction.getD []
  { isNegative := written.isNegative
    digits := (Digits.read? 10 (written.whole ++ fraction)).getD 0
    power := written.exponent.getD 0 - fraction.length }

end Spelling

end Decimal

end RedemptionRelay
