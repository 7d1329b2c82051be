import RedemptionRelay.Text.Bytes

/-! # Hexadecimal bytes

Two digits per byte, high half first; lowercase when written, either case when
read. A text of odd length is refused before any character is looked at, and
the first byte of the text that is no digit is reported with its position.
-/

namespace RedemptionRelay.Hex

inductive Error where
  | oddLength
  | invalidCharacter (byte : UInt8) (position : Nat)
deriving DecidableEq, Repr

def digit (value : Nat) : Char :=
  if value < 10 then Char.ofNat ('0'.toNat + value)
  else Char.ofNat ('a'.toNat + (value - 10))

def encodeChars : Bytes → List Char
  | [] => []
  | byte :: rest =>
      digit (byte.toNat / 16) :: digit (byte.toNat % 16) :: encodeChars rest

def encode (bytes : Bytes) : String :=
  String.ofList (encodeChars bytes)

def encodeMarked (bytes : Bytes) : String :=
  String.ofList ('0' :: 'x' :: encodeChars bytes)

def digitValue? (byte : UInt8) : Option Nat :=
  let code := byte.toNat
  if 0x30 ≤ code ∧ code ≤ 0x39 then some (code - 0x30)
  else if 0x61 ≤ code ∧ code ≤ 0x66 then some (code - 0x61 + 10)
  else if 0x41 ≤ code ∧ code ≤ 0x46 then some (code - 0x41 + 10)
  else none

def digitAt (position : Nat) (byte : UInt8) : Except Error Nat :=
  match digitValue? byte with
  | some value => .ok value
  | none => .error (.invalidCharacter byte position)

def decodePairs (position : Nat) : Bytes → Except Error Bytes
  | [] => .ok []
  | [_] => .error .oddLength
  | high :: low :: rest => do
      let upper ← digitAt position high
      let lower ← digitAt (position + 1) low
      let bytes ← decodePairs (position + 2) rest
      return UInt8.ofNat (upper * 16 + lower) :: bytes

def decodeBytes (units : Bytes) : Except Error Bytes :=
  if units.length % 2 = 1 then .error .oddLength else decodePairs 0 units

def decode (text : String) : Except Error Bytes :=
  decodeBytes (Bytes.ofText text)

/-- Drops every leading `0x` mark, however many stand in a row. -/
def dropMarks : List Char → List Char
  | '0' :: 'x' :: rest => dropMarks rest
  | chars => chars

def decodeMarked (text : String) : Except Error Bytes :=
  decodeBytes (Bytes.ofChars (dropMarks text.toList))

/-! The offending byte is shown as the character of that code point, quoted:
named escapes for the common control characters, a braced code for the other
unprintable ones. -/

def quoteByte (byte : UInt8) : String :=
  let code := byte.toNat
  let shown :=
    if code = 0 then "\\0"
    else if code = 9 then "\\t"
    else if code = 10 then "\\n"
    else if code = 13 then "\\r"
    else if code = 0x27 then "\\'"
    else if code = 0x5c then "\\\\"
    else if code < 0x20 ∨ (0x7f ≤ code ∧ code ≤ 0xa0) ∨ code = 0xad then
      "\\u\x7b" ++ String.ofList (Nat.toDigits 16 code) ++ "\x7d"
    else String.singleton (Char.ofNat code)
  "'" ++ shown ++ "'"

def Error.message : Error → String
  | .oddLength => "Odd number of digits"
  | .invalidCharacter byte position =>
      s!"Invalid character {quoteByte byte} at position {position}"

end RedemptionRelay.Hex
