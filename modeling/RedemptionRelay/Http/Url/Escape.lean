import RedemptionRelay.Text.Digits
import RedemptionRelay.Text.Utf8

/-! # Percent codes

In an address a byte can be written as a percent sign and two hexadecimal
digits. Controls and characters beyond ASCII are always written like that; each
part of an address has further characters that are reserved in it.
-/

namespace RedemptionRelay.Escape

def ofByte (byte : UInt8) : List Char :=
  let digit (value : Nat) : Char := (Nat.digitChar value).toUpper
  ['%', digit (byte.toNat / 16), digit (byte.toNat % 16)]

def isControl (c : Char) : Bool :=
  c.toNat < 0x20 || c.toNat ≥ 0x7f

def encodeChar (reserved : List Char) (c : Char) : List Char :=
  if isControl c || reserved.contains c then (String.utf8EncodeChar c).flatMap ofByte else [c]

def encode (reserved : List Char) (chars : List Char) : List Char :=
  chars.flatMap (encodeChar reserved)

/-- The bytes meant; a percent sign without two digits stands for itself. -/
def decode : List Char → Bytes
  | [] => []
  | '%' :: high :: low :: rest =>
      match Digits.digitValue? 16 high, Digits.digitValue? 16 low with
      | some upper, some lower => UInt8.ofNat (upper * 16 + lower) :: decode rest
      | _, _ => 0x25 :: decode (high :: low :: rest)
  | c :: rest => String.utf8EncodeChar c ++ decode rest

def decodeText? (chars : List Char) : Option (List Char) :=
  Utf8.decode? (decode chars)

/-! ## Reserved characters -/

def fragmentReserved : List Char :=
  [' ', '"', '<', '>', Char.ofNat 0x60]

def pathReserved : List Char :=
  fragmentReserved ++ ['#', '?', '\x7b', '\x7d']

def credentialReserved : List Char :=
  pathReserved ++ ['/', ':', ';', '=', '@', '[', '\\', ']', '^', '|']

def queryReserved : List Char :=
  [' ', '"', '#', '<', '>']

end RedemptionRelay.Escape
