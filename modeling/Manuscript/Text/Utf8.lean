/-!
# Text in bytes

Text is kept in bytes as UTF-8. A reader is strict: bytes that are no text in this form give none.
It may skip the mark at the start of a text that says so.
-/

namespace Manuscript.Text

/-- The text of bytes, if they are one. -/
def decodeUtf8? (bytes : ByteArray) : Option String :=
  String.fromUTF8? bytes

/-- The bytes without the mark that may open a text. -/
def dropMark (bytes : ByteArray) : ByteArray :=
  if bytes.data[0]? = some 0xef ∧ bytes.data[1]? = some 0xbb ∧ bytes.data[2]? = some 0xbf then
    bytes.extract 3 bytes.size
  else bytes

/-- The text whose characters are numbered by the bytes. -/
def decodeBytewise (bytes : ByteArray) : String :=
  .ofList (bytes.data.toList.map fun b => .ofNat b.toNat)

/-- The text with a line feed for every line ending. -/
def unifyEndings : List Char → List Char
  | [] => []
  | '\r' :: '\n' :: rest => '\n' :: unifyEndings rest
  | c :: rest => (if c = '\r' then '\n' else c) :: unifyEndings rest

end Manuscript.Text
