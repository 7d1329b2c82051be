/-! # Byte strings

Payloads are lists of bytes. A text becomes bytes by its UTF-8 form, one
character after the other.
-/

namespace RedemptionRelay

abbrev Bytes := List UInt8

namespace Bytes

def ofChars (chars : List Char) : Bytes :=
  chars.flatMap String.utf8EncodeChar

def ofText (text : String) : Bytes :=
  ofChars text.toList

end Bytes

end RedemptionRelay
