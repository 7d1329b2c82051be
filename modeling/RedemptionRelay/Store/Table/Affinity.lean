import RedemptionRelay.Store.Table.Row

/-! # Affinities

A column prefers one storage class. A text column turns numbers into text. An
integer column turns a text that is a number into an integer if it can, and
into a real number if it cannot, and keeps other texts; a number written with a
point or an exponent becomes a real number first, which is then exact only to
53 bits.
-/

namespace RedemptionRelay

inductive Affinity where
  | text
  | integer
  | free
deriving DecidableEq, Repr

namespace Cell

def fitsInteger (value : Int) : Bool :=
  -Width.signedBound64 ≤ value && value < Width.signedBound64

/-- The integer that a real number equals, away from the ends of the range. -/
def wholeReal? (number : Floating) : Option Int :=
  number.whole?.filter fun value =>
    -Width.signedBound64 < value && value < Width.signedBound64 - 1

def ofReal (number : Floating) : Cell :=
  match wholeReal? number with
  | some value => .integer value
  | none => .real number

def number? (content : String) : Option Cell := do
  let spelling ← Decimal.Spelling.ofText? content
  if spelling.isPlain && fitsInteger spelling.plainValue then
    return .integer spelling.plainValue
  else return ofReal (Floating.ofDecimal spelling.value)

/-- A number from outside: an integer if it is written as one and fits. -/
def ofLiteral (literal : String) : Cell :=
  match literal.toInt? with
  | some value =>
      if fitsInteger value then .integer value
      else .real (Floating.nearest (value < 0) (value.natAbs, 1))
  | none =>
      match Decimal.Spelling.ofText? literal with
      | some spelling => .real (Floating.ofDecimal spelling.exactValue)
      | none => .text literal

end Cell

def Affinity.apply : Affinity → Cell → Cell
  | .text, .integer value => .text (toString value)
  | .text, .real number => .text number.text
  | .integer, .text content => (Cell.number? content).getD (.text content)
  | .integer, .real number => Cell.ofReal number
  | _, cell => cell

end RedemptionRelay
