/-! # Punycode

Characters beyond ASCII are written with ASCII letters and digits: first the
ASCII characters as they are, then a number for each other character, in the
order of their codes, that tells how far its code and its place are from those
of the character before. Numbers have 36 digits and end with a digit below a
threshold that adapts to the numbers seen.
-/

namespace RedemptionRelay.Punycode

def base : Nat := 36

def firstCode : Nat := 0x80

def firstBias : Nat := 72

def digit (value : Nat) : Char :=
  if value < 26 then Char.ofNat ('a'.toNat + value) else Char.ofNat ('0'.toNat + value - 26)

def digitValue? (c : Char) : Option Nat :=
  if 'a' ≤ c ∧ c ≤ 'z' then some (c.toNat - 'a'.toNat)
  else if '0' ≤ c ∧ c ≤ '9' then some (c.toNat - '0'.toNat + 26)
  else none

def threshold (position bias : Nat) : Nat :=
  if position ≤ bias then 1 else if bias + 26 ≤ position then 26 else position - bias

theorem threshold_pos (position bias : Nat) : 0 < threshold position bias := by
  unfold threshold
  split
  · omega
  · split <;> omega

def shrink (number steps : Nat) : Nat × Nat :=
  if 455 < number then shrink (number / 35) (steps + base) else (number, steps)
termination_by number
decreasing_by exact Nat.div_lt_self (by omega) (by omega)

/-- The bias after a number, with the count of characters written by then. -/
def adapt (number count : Nat) (isFirst : Bool) : Nat :=
  let number := if isFirst then number / 700 else number / 2
  let (number, steps) := shrink (number + number / count) 0
  steps + base * number / (number + 38)

/-! ## Writing -/

def writeNumber (bias position number : Nat) : List Char :=
  let limit := threshold position bias
  if number < limit then [digit number]
  else
    digit (limit + (number - limit) % (base - limit)) ::
      writeNumber bias (position + base) ((number - limit) / (base - limit))
termination_by number
decreasing_by
  have positive := threshold_pos position bias
  have small := Nat.div_le_self (number - threshold position bias)
    (base - threshold position bias)
  omega

structure Writing where
  output : List Char
  number : Nat := 0
  bias : Nat := firstBias
  count : Nat
  isFirst : Bool := true

def Writing.pass (code : Nat) (writing : Writing) (c : Char) : Writing :=
  if c.toNat < code then { writing with number := writing.number + 1 }
  else if c.toNat = code then
    { output := writing.output ++ writeNumber writing.bias base writing.number
      bias := adapt writing.number (writing.count + 1) writing.isFirst
      count := writing.count + 1
      isFirst := false }
  else writing

def writeCodes (chars : List Char) (least : Nat) (writing : Writing) : List Nat → Writing
  | [] => writing
  | code :: codes =>
      let reached :=
        { writing with number := writing.number + (code - least) * (writing.count + 1) }
      let passed := chars.foldl (Writing.pass code) reached
      writeCodes chars (code + 1) { passed with number := passed.number + 1 } codes

def isPlain (c : Char) : Bool :=
  c.toNat < firstCode

def codesOf (chars : List Char) : List Nat :=
  let codes := (chars.filter (!isPlain ·)).map Char.toNat
  (codes.mergeSort fun left right => left ≤ right).eraseDups

def encode (chars : List Char) : List Char :=
  let plain := chars.filter isPlain
  let start := if plain.isEmpty then [] else plain ++ ['-']
  (writeCodes chars firstCode { output := start, count := plain.length } (codesOf chars)).output

/-! ## Reading -/

def readNumber? (bias position weight number : Nat) : List Char → Option (Nat × List Char)
  | [] => none
  | c :: rest => do
      let value ← digitValue? c
      let limit := threshold position bias
      let number := number + value * weight
      if value < limit then return (number, rest)
      else readNumber? bias (position + base) (weight * (base - limit)) number rest

def isCharCode (code : Nat) : Bool :=
  code < 0xd800 || (0xdfff < code && code < 0x110000)

/-- Reads numbers to the end; each takes at least one digit, so their count is
at most `fuel`. -/
def readChars? (chars : List Char) (code place bias : Nat) (isFirst : Bool) :
    Nat → List Char → Option (List Char)
  | _, [] => some chars
  | 0, _ => none
  | fuel + 1, digits => do
      let (number, rest) ← readNumber? bias base 1 0 digits
      let count := chars.length + 1
      let code := code + (place + number) / count
      let place := (place + number) % count
      if isCharCode code then
        let chars := chars.take place ++ Char.ofNat code :: chars.drop place
        readChars? chars code (place + 1) (adapt number count isFirst) false fuel rest
      else none

def decode? (chars : List Char) : Option (List Char) :=
  let digits := (chars.reverse.takeWhile (· ≠ '-')).reverse
  let plain := (chars.take (chars.length - digits.length)).dropLast
  if plain.all isPlain then readChars? plain firstCode 0 firstBias true digits.length digits
  else none

end RedemptionRelay.Punycode
