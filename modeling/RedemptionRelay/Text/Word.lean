/-! # Words in any letter case

Names given by an operator are compared with lowercase ASCII words. Outside
ASCII one character has an ASCII lowercase form, the Kelvin sign; every other
one lowers to something no such word contains, so it may stay as it is.
-/

namespace RedemptionRelay.Word

def lowerChar (c : Char) : Char :=
  if c = '\u212A' then 'k' else c.toLower

def lower (text : String) : String :=
  String.ofList (text.toList.map lowerChar)

def sameAscii (left right : String) : Bool :=
  left.toList.map Char.toLower == right.toList.map Char.toLower

end RedemptionRelay.Word
