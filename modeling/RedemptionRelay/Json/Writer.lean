import RedemptionRelay.Json.Value

/-! # Writing JSON

Compact text without blanks. A string escapes the quote, the backslash and the
control characters below the space, and nothing else.
-/

namespace RedemptionRelay.Json

def escapeChar (c : Char) : List Char :=
  if c = '"' then ['\\', '"']
  else if c = '\\' then ['\\', '\\']
  else if c.toNat = 0x08 then ['\\', 'b']
  else if c.toNat = 0x09 then ['\\', 't']
  else if c.toNat = 0x0a then ['\\', 'n']
  else if c.toNat = 0x0c then ['\\', 'f']
  else if c.toNat = 0x0d then ['\\', 'r']
  else if c.toNat < 0x20 then
    ['\\', 'u', '0', '0', Nat.digitChar (c.toNat / 16), Nat.digitChar (c.toNat % 16)]
  else [c]

def writeText (content : String) : List Char :=
  '"' :: (content.toList.flatMap escapeChar ++ ['"'])

namespace Value

mutual

def chars : Value → List Char
  | .null => ['n', 'u', 'l', 'l']
  | .bool true => ['t', 'r', 'u', 'e']
  | .bool false => ['f', 'a', 'l', 's', 'e']
  | .number literal => literal.toList
  | .text content => writeText content
  | .array [] => ['[', ']']
  | .array (item :: rest) => '[' :: (item.chars ++ itemChars rest)
  | .object [] => ['\x7b', '\x7d']
  | .object ((name, value) :: rest) =>
      '\x7b' :: (writeText name ++ ':' :: (value.chars ++ memberChars rest))

def itemChars : List Value → List Char
  | [] => [']']
  | item :: rest => ',' :: (item.chars ++ itemChars rest)

def memberChars : List (String × Value) → List Char
  | [] => ['\x7d']
  | (name, value) :: rest =>
      ',' :: (writeText name ++ ':' :: (value.chars ++ memberChars rest))

end

def write (value : Value) : String :=
  String.ofList value.chars

end Value

end RedemptionRelay.Json
