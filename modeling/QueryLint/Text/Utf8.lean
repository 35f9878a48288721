/-! # Text in bytes -/

namespace QueryLint.Text

/-- The text that some bytes encode, if they encode one. -/
def decodeUtf8 (bs : List UInt8) : Option (List Char) :=
  (String.fromUTF8? (ByteArray.mk bs.toArray)).map String.toList

end QueryLint.Text
