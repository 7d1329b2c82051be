/-! # Digit texts

Numbers written as digits in a base of at most sixteen. Both letter cases are
read; nothing but digits is accepted, and at least one of them is needed.
Decimal texts are written by `Nat.repr`.
-/

namespace RedemptionRelay.Digits

def digitValue? (base : Nat) (c : Char) : Option Nat :=
  let value :=
    if '0' ≤ c ∧ c ≤ '9' then c.toNat - '0'.toNat
    else if 'a' ≤ c ∧ c ≤ 'f' then c.toNat - 'a'.toNat + 10
    else if 'A' ≤ c ∧ c ≤ 'F' then c.toNat - 'A'.toNat + 10
    else base
  if value < base then some value else none

def readAfter? (base leading : Nat) : List Char → Option Nat
  | [] => some leading
  | c :: rest =>
      match digitValue? base c with
      | some value => readAfter? base (leading * base + value) rest
      | none => none

def read? (base : Nat) : List Char → Option Nat
  | [] => none
  | digits => readAfter? base 0 digits

def readSigned? (base : Nat) : List Char → Option Nat
  | '+' :: digits => read? base digits
  | digits => read? base digits

def isDecimal (c : Char) : Bool :=
  (digitValue? 10 c).isSome

def isHexadecimal (c : Char) : Bool :=
  (digitValue? 16 c).isSome

def padded (width value : Nat) : String :=
  let digits := Nat.toDigits 10 value
  String.ofList (List.replicate (width - digits.length) '0' ++ digits)

end RedemptionRelay.Digits
