import RedemptionRelay.Text.Alphanumeric
import RedemptionRelay.Text.Composition
import RedemptionRelay.Text.Folding
import RedemptionRelay.Text.Mark
import RedemptionRelay.Text.Punycode

/-! # Domain names

A domain name has one form in ASCII. Its characters are folded and composed;
then each label that holds others than ASCII characters is written in Punycode,
behind a mark that says so. A label that comes with the mark must be what such
a label is written as. Where letters are written from right to left, labels must
not mix directions.
-/

namespace RedemptionRelay.Domain

def isForbidden (c : Char) : Bool :=
  c.toNat ≤ 0x20 || c.toNat == 0x7f || "%#/:<>?@[\\]^|".toList.contains c

/-- Controls, spaces, joiners, private codes, and signs that stand for ones of
which a forbidden character is a part. -/
def excluded : List (Nat × Nat) :=
  [(0x80, 0xa0), (0xa8, 0xa8), (0xaf, 0xaf), (0xb4, 0xb4), (0xb8, 0xb8), (0x2d8, 0x2dd),
    (0x37a, 0x37a), (0x384, 0x385), (0x600, 0x605), (0x61c, 0x61c), (0x6dd, 0x6dd),
    (0x70f, 0x70f), (0x890, 0x891), (0x8e2, 0x8e2), (0x1680, 0x1680), (0x1fbd, 0x1fbd),
    (0x1fbf, 0x1fc1), (0x1fcd, 0x1fcf), (0x1fdd, 0x1fdf), (0x1fed, 0x1fee), (0x1ffd, 0x1ffe),
    (0x2000, 0x200a), (0x200c, 0x200f), (0x2017, 0x2017), (0x2024, 0x2026), (0x2028, 0x202f),
    (0x203e, 0x203e), (0x2047, 0x2049), (0x205f, 0x205f), (0x2066, 0x2069), (0x2100, 0x2101),
    (0x2105, 0x2106), (0x2488, 0x249b), (0x2a74, 0x2a74), (0x2ff0, 0x2ffb), (0x3000, 0x3000),
    (0x309b, 0x309c), (0x33c2, 0x33c2), (0x33c7, 0x33c7), (0x33d8, 0x33d8), (0xe000, 0xf8ff),
    (0xfc5e, 0xfc63), (0xfdd0, 0xfdef), (0xfdfa, 0xfdfb), (0xfe12, 0xfe13), (0xfe16, 0xfe16),
    (0xfe19, 0xfe19), (0xfe30, 0xfe30), (0xfe47, 0xfe4c), (0xfe52, 0xfe52), (0xfe55, 0xfe56),
    (0xfe5f, 0xfe5f), (0xfe64, 0xfe65), (0xfe68, 0xfe68), (0xfe6a, 0xfe6b), (0xfe70, 0xfe70),
    (0xfe72, 0xfe72), (0xfe74, 0xfe74), (0xfe76, 0xfe76), (0xfe78, 0xfe78), (0xfe7a, 0xfe7a),
    (0xfe7c, 0xfe7c), (0xfe7e, 0xfe7e), (0xffe3, 0xffe3), (0xfff9, 0xffff), (0x110bd, 0x110bd),
    (0x110cd, 0x110cd), (0x13430, 0x13438), (0x1f100, 0x1f100), (0xe0001, 0xe007f),
    (0xf0000, 0x10ffff)]

/-! ## Directions -/

inductive Direction where
  | leftToRight
  | rightToLeft
  | arabicDigit
  | digit
  | mark
  | neutral
deriving DecidableEq, Repr

def rightToLeft : List (Nat × Nat) :=
  [(0x590, 0x8ff), (0x200f, 0x200f), (0xfb1d, 0xfdff), (0xfe70, 0xfeff), (0x10800, 0x10fff),
    (0x1e800, 0x1efff)]

def arabicDigits : List (Nat × Nat) :=
  [(0x600, 0x605), (0x660, 0x669), (0x66b, 0x66c), (0x6dd, 0x6dd), (0x890, 0x891),
    (0x8e2, 0x8e2), (0x10d30, 0x10d39), (0x10e60, 0x10e7e)]

def isDigit (c : Char) : Bool :=
  c.isDigit || (0x6f0 ≤ c.toNat && c.toNat ≤ 0x6f9)

def direction (c : Char) : Direction :=
  if Mark.isMark c then .mark
  else if isDigit c then .digit
  else if Ranges.contain arabicDigits c then .arabicDigit
  else if Ranges.contain rightToLeft c then .rightToLeft
  else if Alphanumeric.isAlphanumeric c then .leftToRight
  else .neutral

/-- Whether a label turns the direction of the whole name into a question. -/
def turns (label : List Char) : Bool :=
  label.any fun c => direction c == .rightToLeft || direction c == .arabicDigit

def hasOneDirection (label : List Char) : Bool :=
  let directions := label.map direction
  let last := (directions.reverse.dropWhile (· == .mark)).head?.getD .mark
  match directions with
  | [] => true
  | .rightToLeft :: _ =>
      !directions.contains .leftToRight &&
        (last == .rightToLeft || last == .digit || last == .arabicDigit) &&
        !(directions.contains .digit && directions.contains .arabicDigit)
  | .leftToRight :: _ => !turns label && (last == .leftToRight || last == .digit)
  | _ => false

/-! ## Labels -/

def isValid (label : List Char) : Bool :=
  !(label.head?.any Mark.isMark) && !label.any (fun c => isForbidden c || Ranges.contain excluded c)

def normal (chars : List Char) : List Char :=
  Composition.compose (chars.flatMap Folding.fold)

def encodingMark : List Char := ['x', 'n', '-', '-']

def shown? (label : List Char) : Option (List Char) :=
  if encodingMark.isPrefixOf label then do
    let chars ← Punycode.decode? (label.drop encodingMark.length)
    if chars.all Punycode.isPlain || normal chars ≠ chars then none else return chars
  else some label

def written (label : List Char) : List Char :=
  if label.all Punycode.isPlain then label else encodingMark ++ Punycode.encode label

def splitLabels : List Char → List (List Char)
  | [] => [[]]
  | c :: rest =>
      match splitLabels rest with
      | [] => [[c]]
      | label :: labels => if c = '.' then [] :: label :: labels else (c :: label) :: labels

def ascii? (chars : List Char) : Option (List Char) := do
  let labels ← (splitLabels (normal chars)).mapM shown?
  if labels.all isValid && (!labels.any turns || labels.all hasOneDirection) then
    return List.intercalate ['.'] (labels.map written)
  else none

end RedemptionRelay.Domain
