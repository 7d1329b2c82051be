import RedemptionRelay.Http.Url.Domain
import RedemptionRelay.Http.Url.Escape
import RedemptionRelay.Width

/-! # Hosts

A host is a name or the number of a machine. In the schemes of the web a name
is a domain name, and one whose last label is a number is itself a number; in
other schemes it is any text without reserved characters.
-/

namespace RedemptionRelay

inductive UrlError where
  | noScheme
  | emptyHost
  | invalidPort
  | invalidDomain
  | invalidHostCharacter
  | invalidIpv4
  | invalidIpv6
deriving DecidableEq, Repr

def UrlError.message : UrlError → String
  | .noScheme => "relative URL without a base"
  | .emptyHost => "empty host"
  | .invalidPort => "invalid port number"
  | .invalidDomain => "invalid international domain name"
  | .invalidHostCharacter => "invalid domain character"
  | .invalidIpv4 => "invalid IPv4 address"
  | .invalidIpv6 => "invalid IPv6 address"

inductive Host where
  | empty
  | name (text : String)
  | ipv4 (address : Nat)
  /-- Eight pieces of sixteen bits. -/
  | ipv6 (pieces : List Nat)
deriving DecidableEq, Repr

/-! ## Numbers of 32 bits

Up to four parts, each decimal, octal behind `0` or hexadecimal behind `0x`.
The last part fills all the bytes that are left. -/

namespace Ipv4

def part? (part : List Char) : Option Nat :=
  match part with
  | '0' :: 'x' :: digits | '0' :: 'X' :: digits =>
      if digits.isEmpty then some 0 else Digits.read? 16 digits
  | '0' :: digit :: digits => Digits.read? 8 (digit :: digits)
  | digits => Digits.read? 10 digits

def parts (chars : List Char) : List (List Char) :=
  let parts := Domain.splitLabels chars
  if parts.getLast? = some [] then parts.dropLast else parts

/-- Whether a name can only be meant as a number. -/
def endsInNumber (chars : List Char) : Bool :=
  match (parts chars).getLast? with
  | some [] | none => false
  | some part => part.all Char.isDigit || (part? part).isSome

/-- The value of parts of which all but the last are bytes. -/
def value? (bytesLeft : Nat) : List Nat → Option Nat
  | [] => none
  | [last] => if last < Nat.pow 256 bytesLeft then some last else none
  | byte :: rest =>
      if byte < 256 ∧ 1 < bytesLeft then
        (value? (bytesLeft - 1) rest).map (byte * Nat.pow 256 (bytesLeft - 1) + ·)
      else none

def parse? (chars : List Char) : Option Nat :=
  ((parts chars).mapM part?).bind (value? 4)

def byteText (address place : Nat) : String :=
  (address / Nat.pow 256 place % 256).repr

def text (address : Nat) : String :=
  String.intercalate "." ([3, 2, 1, 0].map (byteText address))

end Ipv4

/-! ## Numbers of 128 bits

Eight pieces of up to four hexadecimal digits; two colons stand for one or more
zeros, once, and the last two pieces may be given as four decimal bytes. -/

namespace Ipv6

def piece? (piece : List Char) : Option Nat :=
  if piece.length ≤ 4 then Digits.read? 16 piece else none

def byte? (part : List Char) : Option Nat :=
  match part with
  | '0' :: _ :: _ => none
  | digits => (Digits.read? 10 digits).filter (· < 256)

def dotted? (chars : List Char) : Option (List Nat) := do
  match ← (chars.splitOn '.').mapM byte? with
  | [a, b, c, d] => return [a * 256 + b, c * 256 + d]
  | _ => none

def lastPieces? (last : List Char) : Option (List Nat) :=
  if last.contains '.' then dotted? last else (piece? last).map ([·])

def pieces? (mayEndDotted : Bool) (chars : List Char) : Option (List Nat) :=
  if chars.isEmpty then some []
  else
    let parts := chars.splitOn ':'
    if mayEndDotted then do
      let leading ← parts.dropLast.mapM piece?
      let last ← lastPieces? (parts.getLastD [])
      return leading ++ last
    else parts.mapM piece?

/-- Splits at two colons, from left to right. -/
def splitGaps : List Char → List (List Char)
  | [] => [[]]
  | ':' :: ':' :: rest => [] :: splitGaps rest
  | c :: rest =>
      match splitGaps rest with
      | [] => [[c]]
      | part :: parts => (c :: part) :: parts

def parse? (chars : List Char) : Option (List Nat) := do
  match splitGaps chars with
  | [whole] =>
      let pieces ← pieces? true whole
      if pieces.length = 8 then return pieces else none
  | [left, right] =>
      let before ← pieces? false left
      let after ← pieces? true right
      let given := before.length + after.length
      if given ≤ 7 then return before ++ List.replicate (8 - given) 0 ++ after else none
  | _ => none

def pieceText (piece : Nat) : String :=
  String.ofList (Nat.toDigits 16 piece)

def joined (pieces : List Nat) : String :=
  String.intercalate ":" (pieces.map pieceText)

def zerosFrom (pieces : List Nat) (start : Nat) : Nat :=
  ((pieces.drop start).takeWhile (· == 0)).length

def longestZeros (pieces : List Nat) : Nat :=
  (List.range pieces.length).foldl
    (fun best start =>
      if zerosFrom pieces best < zerosFrom pieces start then start else best) 0

def text (pieces : List Nat) : String :=
  let start := longestZeros pieces
  let size := zerosFrom pieces start
  if size < 2 then joined pieces
  else joined (pieces.take start) ++ "::" ++ joined (pieces.drop (start + size))

end Ipv6

namespace Host

def text : Host → String
  | .empty => ""
  | .name text => text
  | .ipv4 address => Ipv4.text address
  | .ipv6 pieces => "[" ++ Ipv6.text pieces ++ "]"

def parseIpv6 (chars : List Char) : Except UrlError Host :=
  match chars.getLast?, Ipv6.parse? chars.dropLast with
  | some ']', some pieces => .ok (.ipv6 pieces)
  | _, _ => .error .invalidIpv6

def parseDomain (chars : List Char) : Except UrlError Host :=
  match chars with
  | [] => .error .emptyHost
  | '[' :: rest => parseIpv6 rest
  | chars =>
      match (Escape.decodeText? chars).bind Domain.ascii? with
      | none => .error .invalidDomain
      | some [] => .error .emptyHost
      | some domain =>
          if Ipv4.endsInNumber domain then
            match Ipv4.parse? domain with
            | some address => .ok (.ipv4 address)
            | none => .error .invalidIpv4
          else .ok (.name (String.ofList domain))

def isReserved (c : Char) : Bool :=
  c.toNat = 0 || "\t\n\r #/:<>?@[\\]^|".toList.contains c

def parseName (chars : List Char) : Except UrlError Host :=
  match chars with
  | [] => .ok .empty
  | '[' :: rest => parseIpv6 rest
  | chars =>
      if chars.any isReserved then .error .invalidHostCharacter
      else .ok (.name (String.ofList (Escape.encode [] chars)))

end Host

end RedemptionRelay
