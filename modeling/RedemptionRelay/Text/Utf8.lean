import RedemptionRelay.Text.Bytes

/-! # Reading bytes as UTF-8

Decoding never fails: each maximal ill-formed stretch becomes one replacement
character, and a leading byte order mark is dropped.

A character that has begun but is not complete is kept as the number of bytes
it still needs, the range allowed for the next one, and the bits read so far.
-/

namespace RedemptionRelay.Utf8

structure Pending where
  missing : Nat
  low : Nat
  high : Nat
  bits : Nat

inductive Start where
  | character (c : Char)
  | pending (rest : Pending)
  | invalid

def replacement : Char := '\uFFFD'

def start (byte : UInt8) : Start :=
  let code := byte.toNat
  if code < 0x80 then .character (Char.ofNat code)
  else if 0xc2 ≤ code ∧ code ≤ 0xdf then .pending ⟨1, 0x80, 0xbf, code - 0xc0⟩
  else if 0xe0 ≤ code ∧ code ≤ 0xef then
    .pending
      ⟨2, if code = 0xe0 then 0xa0 else 0x80, if code = 0xed then 0x9f else 0xbf, code - 0xe0⟩
  else if 0xf0 ≤ code ∧ code ≤ 0xf4 then
    .pending
      ⟨3, if code = 0xf0 then 0x90 else 0x80, if code = 0xf4 then 0x8f else 0xbf, code - 0xf0⟩
  else .invalid

mutual

def decodeBytes : Bytes → List Char
  | [] => []
  | byte :: rest =>
      match start byte with
      | .character c => c :: decodeBytes rest
      | .pending pending => decodePending pending rest
      | .invalid => replacement :: decodeBytes rest

def decodePending (pending : Pending) : Bytes → List Char
  | [] => [replacement]
  | byte :: rest =>
      let code := byte.toNat
      if pending.low ≤ code ∧ code ≤ pending.high then
        let bits := pending.bits * 64 + code % 64
        if pending.missing ≤ 1 then Char.ofNat bits :: decodeBytes rest
        else decodePending ⟨pending.missing - 1, 0x80, 0xbf, bits⟩ rest
      else
        replacement ::
          match start byte with
          | .character c => c :: decodeBytes rest
          | .pending pending => decodePending pending rest
          | .invalid => replacement :: decodeBytes rest

end

def dropMark : Bytes → Bytes
  | 0xef :: 0xbb :: 0xbf :: rest => rest
  | bytes => bytes

def decode (bytes : Bytes) : String :=
  String.ofList (decodeBytes (dropMark bytes))

/-- The characters of well-formed bytes, with a leading byte order mark. -/
def decode? (bytes : Bytes) : Option (List Char) :=
  let chars := decodeBytes bytes
  if Bytes.ofChars chars = bytes then some chars else none

end RedemptionRelay.Utf8
