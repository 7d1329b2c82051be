import RedemptionRelay.Json.Tree
import RedemptionRelay.Text.Bytes

/-! # Faults of a document

Why a text is no document and where. The first fault from the front counts. A
document is walked byte by byte, each byte taken for a character; a walk leaves
the bytes behind what it has walked over, or stops behind the last byte that it
looked at.
-/

namespace RedemptionRelay.Json

inductive Fault where
  | unfinishedValue
  | unfinishedText
  | unfinishedArray
  | unfinishedObject
  | expectedValue
  | expectedWord
  | expectedColon
  | expectedItemEnd
  | expectedMemberEnd
  | nameNotText
  | invalidNumber
  | invalidEscape
  | unfinishedPair
  | unpairedSurrogate
  | controlCharacter
  | trailingComma
  | trailingCharacters
  | tooDeep
deriving DecidableEq, Repr

def Fault.message : Fault → String
  | .unfinishedValue => "EOF while parsing a value"
  | .unfinishedText => "EOF while parsing a string"
  | .unfinishedArray => "EOF while parsing a list"
  | .unfinishedObject => "EOF while parsing an object"
  | .expectedValue => "expected value"
  | .expectedWord => "expected ident"
  | .expectedColon => "expected `:`"
  | .expectedItemEnd => "expected `,` or `]`"
  | .expectedMemberEnd => "expected `,` or `\x7d`"
  | .nameNotText => "key must be a string"
  | .invalidNumber => "invalid number"
  | .invalidEscape => "invalid escape"
  | .unfinishedPair => "unexpected end of hex escape"
  | .unpairedSurrogate => "lone leading surrogate in hex escape"
  | .controlCharacter => "control character (\\u0000-\\u001F) found while parsing a string"
  | .trailingComma => "trailing comma"
  | .trailingCharacters => "trailing characters"
  | .tooDeep => "recursion limit exceeded"

/-- Where a walk ended, and what was not looked at. -/
structure Stop where
  fault : Fault
  rest : List Char
deriving DecidableEq, Repr

abbrev Walk := Except Stop (List Char)

namespace Walk

def stop (fault : Fault) (rest : List Char) : Walk :=
  .error { fault := fault, rest := rest }

def bytewise (text : String) : List Char :=
  (Bytes.ofText text).map fun byte => Char.ofNat byte.toNat

def word : List Char → List Char → Walk
  | [], rest => .ok rest
  | _ :: _, [] => stop .unfinishedValue []
  | letter :: letters, c :: rest =>
      if c = letter then word letters rest else stop .expectedWord rest

/-! ## Numbers -/

def skipDigits (chars : List Char) : List Char :=
  chars.dropWhile Char.isDigit

def startsWithDigit (chars : List Char) : Bool :=
  chars.head?.any Char.isDigit

def exponent (chars : List Char) : Walk :=
  match (readExponentSign chars).2 with
  | [] => stop .unfinishedValue []
  | c :: rest => if c.isDigit then .ok (skipDigits rest) else stop .invalidNumber rest

def optionalExponent : List Char → Walk
  | [] => .ok []
  | c :: rest => if c = 'e' ∨ c = 'E' then exponent rest else .ok (c :: rest)

def fraction : List Char → Walk
  | '.' :: rest =>
      if startsWithDigit rest then optionalExponent (skipDigits rest)
      else if rest.isEmpty then stop .unfinishedValue []
      else stop .invalidNumber (rest.drop 1)
  | rest => optionalExponent rest

def unsigned : List Char → Walk
  | [] => stop .unfinishedValue []
  | '0' :: rest =>
      if startsWithDigit rest then stop .invalidNumber (rest.drop 1) else fraction rest
  | c :: rest => if c.isDigit then fraction (skipDigits rest) else stop .invalidNumber rest

def number (chars : List Char) : Walk :=
  unsigned (readSign chars).2

/-! ## Texts -/

def unit : List Char → Except Stop (Nat × List Char)
  | a :: b :: c :: d :: rest =>
      match Digits.read? 16 [a, b, c, d] with
      | some code => .ok (code, rest)
      | none => .error { fault := .invalidEscape, rest := rest }
  | _ => .error { fault := .unfinishedText, rest := [] }

def secondHalf : List Char → Walk
  | [] | ['\\'] => stop .unfinishedText []
  | '\\' :: 'u' :: rest => do
      let (code, rest) ← unit rest
      if isLowSurrogate code then return rest else stop .unpairedSurrogate rest
  | '\\' :: _ :: rest => stop .unfinishedPair rest
  | _ :: rest => stop .unfinishedPair rest

def escape : List Char → Walk
  | [] => stop .unfinishedText []
  | 'u' :: rest => do
      let (code, rest) ← unit rest
      if isHighSurrogate code then secondHalf rest
      else if isLowSurrogate code then stop .unpairedSurrogate rest
      else return rest
  | c :: rest => if (simpleEscape? c).isSome then .ok rest else stop .invalidEscape rest

/-- Behind an opening quote. There are fewer parts than bytes, so the fuel is
enough. -/
def textParts : Nat → List Char → Walk
  | _, [] | 0, _ => stop .unfinishedText []
  | _, '"' :: rest => .ok rest
  | fuel + 1, '\\' :: rest => do
      let rest ← escape rest
      textParts fuel rest
  | fuel + 1, c :: rest =>
      if c.toNat < 0x20 then stop .controlCharacter rest else textParts fuel rest

def text (chars : List Char) : Walk :=
  textParts (chars.length + 1) chars

/-! ## Values

The fuel counts nested and repeated values. -/

mutual

def value : Nat → Nat → List Char → Walk
  | 0, _, rest => stop .unfinishedValue rest
  | fuel + 1, depth, chars =>
      match skipBlanks chars with
      | [] => stop .unfinishedValue []
      | 'n' :: rest => word ['u', 'l', 'l'] rest
      | 't' :: rest => word ['r', 'u', 'e'] rest
      | 'f' :: rest => word ['a', 'l', 's', 'e'] rest
      | '"' :: rest => text rest
      | '[' :: rest =>
          match depth with
          | 0 => stop .tooDeep rest
          | depth + 1 =>
              match skipBlanks rest with
              | [] => stop .unfinishedArray []
              | ']' :: rest => .ok rest
              | rest => items fuel depth rest
      | '\x7b' :: rest =>
          match depth with
          | 0 => stop .tooDeep rest
          | depth + 1 =>
              match skipBlanks rest with
              | [] => stop .unfinishedObject []
              | '\x7d' :: rest => .ok rest
              | '"' :: rest => members fuel depth rest
              | _ :: rest => stop .nameNotText rest
      | c :: rest =>
          if c = '-' ∨ c.isDigit then number (c :: rest) else stop .expectedValue rest

def items : Nat → Nat → List Char → Walk
  | 0, _, rest => stop .unfinishedArray rest
  | fuel + 1, depth, chars => do
      let rest ← value fuel depth chars
      match skipBlanks rest with
      | [] => stop .unfinishedArray []
      | ']' :: rest => .ok rest
      | ',' :: rest =>
          match skipBlanks rest with
          | [] => stop .unfinishedValue []
          | ']' :: rest => stop .trailingComma rest
          | rest => items fuel depth rest
      | _ :: rest => stop .expectedItemEnd rest

/-- Over at least one member, from behind the quote that opens its name, and
the closing brace. -/
def members : Nat → Nat → List Char → Walk
  | 0, _, rest => stop .unfinishedObject rest
  | fuel + 1, depth, chars => do
      let rest ← text chars
      match skipBlanks rest with
      | [] => stop .unfinishedObject []
      | ':' :: rest => do
          let rest ← value fuel depth rest
          match skipBlanks rest with
          | [] => stop .unfinishedObject []
          | '\x7d' :: rest => .ok rest
          | ',' :: rest =>
              match skipBlanks rest with
              | [] => stop .unfinishedValue []
              | '"' :: rest => members fuel depth rest
              | '\x7d' :: rest => stop .trailingComma rest
              | _ :: rest => stop .nameNotText rest
          | _ :: rest => stop .expectedMemberEnd rest
      | _ :: rest => stop .expectedColon rest

end

def document (depth : Nat) (chars : List Char) : Walk := do
  let rest ← value (2 * chars.length + 2) depth chars
  match skipBlanks rest with
  | [] => .ok []
  | _ :: rest => stop .trailingCharacters rest

end Walk

end RedemptionRelay.Json
