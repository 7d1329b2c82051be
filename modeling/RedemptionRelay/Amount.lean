import RedemptionRelay.Text.Blank
import RedemptionRelay.Text.Digits
import RedemptionRelay.Width

/-! # Amounts

Token amounts have eighteen decimals and are below 2^128; Bitcoin amounts are
satoshis, eight decimals, below 2^64. A token amount becomes satoshis by
dropping what is below one satoshi; one too large for 64 bits becomes the
largest.
-/

namespace RedemptionRelay.Amount

def satsPerBitcoin : Nat := 100000000

def tokenUnitsPerSat : Nat := 10000000000

def tokenBound : Nat := Width.bound128

def maxSats : Nat := Width.max64

def toSats (amount : Nat) : Nat :=
  min (amount / tokenUnitsPerSat) maxSats

/-! ## Reading

Blanks around the text and underscores anywhere do not count. What is left is
decimal, or hexadecimal behind a lowercase `0x`; a plus sign may stand before
the digits. -/

def parseChars? (chars : List Char) : Option Nat :=
  let value? :=
    match chars with
    | '0' :: 'x' :: digits => Digits.readSigned? 16 digits
    | digits => Digits.readSigned? 10 digits
  match value? with
  | some value => if value < tokenBound then some value else none
  | none => none

def parse? (text : String) : Option Nat :=
  parseChars? ((Blank.trimChars text.toList).filter (· ≠ '_'))

/-! ## Writing -/

def bitcoinText (sats : Nat) : String :=
  (sats / satsPerBitcoin).repr ++ "." ++ Digits.padded 8 (sats % satsPerBitcoin)

/-- A comma before every third digit from the right, except the first digit. -/
def groupDigits : List Char → List Char
  | [] => []
  | digit :: rest =>
      if rest.length % 3 = 0 ∧ rest ≠ [] then digit :: ',' :: groupDigits rest
      else digit :: groupDigits rest

def groupedText (value : Nat) : String :=
  String.ofList (groupDigits (Nat.toDigits 10 value))

def displayText (sats : Nat) : String :=
  s!"{groupedText sats} sats ({bitcoinText sats} BTC)"

end RedemptionRelay.Amount
