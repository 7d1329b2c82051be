import RedemptionRelay.Text.Bytes

/-! # Base64

The standard alphabet with padding. Only the canonical text of a byte string is
accepted: padding is required and the unused bits of the last symbol are zero.

The last group of four symbols is judged apart from the ones before it, since
only it may hold padding.
-/

namespace RedemptionRelay.Base64

inductive Error where
  | invalidSymbol (byte : UInt8) (offset : Nat)
  | invalidLength (length : Nat)
  | invalidLastSymbol (byte : UInt8) (offset : Nat)
  | invalidPadding
deriving DecidableEq, Repr

def Error.message : Error → String
  | .invalidSymbol byte offset => s!"Invalid symbol {byte.toNat}, offset {offset}."
  | .invalidLength length => s!"Invalid input length: {length}"
  | .invalidLastSymbol byte offset => s!"Invalid last symbol {byte.toNat}, offset {offset}."
  | .invalidPadding => "Invalid padding"

def paddingByte : UInt8 := 0x3d

def symbolValue? (byte : UInt8) : Option Nat :=
  let code := byte.toNat
  if 0x41 ≤ code ∧ code ≤ 0x5a then some (code - 0x41)
  else if 0x61 ≤ code ∧ code ≤ 0x7a then some (code - 0x61 + 26)
  else if 0x30 ≤ code ∧ code ≤ 0x39 then some (code - 0x30 + 52)
  else if code = 0x2b then some 62
  else if code = 0x2f then some 63
  else none

def symbol (value : Nat) : UInt8 :=
  if value < 26 then UInt8.ofNat (0x41 + value)
  else if value < 52 then UInt8.ofNat (0x61 + (value - 26))
  else if value < 62 then UInt8.ofNat (0x30 + (value - 52))
  else if value = 62 then 0x2b
  else 0x2f

/-! ## Writing -/

def encodeBytes : Bytes → Bytes
  | [] => []
  | [a] =>
      let bits := a.toNat * 16
      [symbol (bits / 64), symbol (bits % 64), paddingByte, paddingByte]
  | [a, b] =>
      let bits := (a.toNat * 256 + b.toNat) * 4
      [symbol (bits / 4096), symbol (bits / 64 % 64), symbol (bits % 64), paddingByte]
  | a :: b :: c :: rest =>
      let bits := (a.toNat * 256 + b.toNat) * 256 + c.toNat
      symbol (bits / 262144) :: symbol (bits / 4096 % 64) :: symbol (bits / 64 % 64) ::
        symbol (bits % 64) :: encodeBytes rest

/-! ## Reading -/

def symbolAt (offset : Nat) (byte : UInt8) : Except Error Nat :=
  match symbolValue? byte with
  | some value => .ok value
  | none => .error (.invalidSymbol byte offset)

structure Tail where
  values : List Nat
  lastSymbol : UInt8
  firstPadding : Option Nat
  paddings : Nat

/-- Reads the last group; `index` counts within it. Padding may start at the
third place only, and no symbol may follow it. -/
def readTail (offset index : Nat) (tail : Tail) : Bytes → Except Error Tail
  | [] => .ok tail
  | byte :: rest =>
      if byte = paddingByte then
        if index < 2 then .error (.invalidSymbol byte (offset + index))
        else
          readTail offset (index + 1)
            { tail with
              firstPadding := some (tail.firstPadding.getD index)
              paddings := tail.paddings + 1 }
            rest
      else
        match tail.firstPadding with
        | some place => .error (.invalidSymbol paddingByte (offset + place))
        | none => do
            let value ← symbolAt (offset + index) byte
            readTail offset (index + 1)
              { tail with values := tail.values ++ [value], lastSymbol := byte } rest

def tailBytes (offset : Nat) (tail : Tail) : Except Error Bytes :=
  let nonCanonical : Except Error Bytes :=
    .error (.invalidLastSymbol tail.lastSymbol (offset + tail.values.length - 1))
  match tail.values with
  | [a, b] =>
      if b % 16 ≠ 0 then nonCanonical else .ok [UInt8.ofNat ((a * 64 + b) / 16)]
  | [a, b, c] =>
      if c % 4 ≠ 0 then nonCanonical
      else
        let bits := ((a * 64 + b) * 64 + c) / 4
        .ok [UInt8.ofNat (bits / 256), UInt8.ofNat (bits % 256)]
  | [a, b, c, d] =>
      let bits := ((a * 64 + b) * 64 + c) * 64 + d
      .ok [UInt8.ofNat (bits / 65536), UInt8.ofNat (bits / 256 % 256), UInt8.ofNat (bits % 256)]
  | _ => .ok []

def decodeTail (offset : Nat) (units : Bytes) : Except Error Bytes := do
  let tail ← readTail offset 0 ⟨[], 0, none, 0⟩ units
  if tail.values.length < 2 then
    .error (.invalidLength (offset + tail.values.length))
  else if (tail.values.length + tail.paddings) % 4 ≠ 0 then
    .error .invalidPadding
  else
    tailBytes offset tail

def decodeGroups (offset : Nat) : Bytes → Except Error Bytes
  | a :: b :: c :: d :: e :: rest => do
      let first ← symbolAt offset a
      let second ← symbolAt (offset + 1) b
      let third ← symbolAt (offset + 2) c
      let fourth ← symbolAt (offset + 3) d
      let bits := ((first * 64 + second) * 64 + third) * 64 + fourth
      let bytes ← decodeGroups (offset + 4) (e :: rest)
      return UInt8.ofNat (bits / 65536) :: UInt8.ofNat (bits / 256 % 256) ::
        UInt8.ofNat (bits % 256) :: bytes
  | [] => .ok []
  | units => decodeTail offset units

/-- One symbol too many is reported at once when it is none at all. -/
def strayLast? (units : Bytes) : Option Error :=
  match units.getLast? with
  | some byte =>
      if units.length % 4 = 1 ∧ byte ≠ paddingByte ∧ symbolValue? byte = none then
        some (.invalidSymbol byte (units.length - 1))
      else none
  | none => none

def decode (text : String) : Except Error Bytes :=
  let units := Bytes.ofText text
  match strayLast? units with
  | some error => .error error
  | none => decodeGroups 0 units

end RedemptionRelay.Base64
