import LiterateLinks.Text.Utf8

/-!
# Strings of bytes

The machine names files by bytes, and nothing makes these bytes a text.  A text is turned into the
bytes of its characters in UTF-8, and bytes are shown as a text by reading them leniently, which
loses what stands for no character.
-/

namespace LiterateLinks

/-- Bytes that need not be a text. -/
structure ByteString where
  bytes : List UInt8
  deriving Repr, DecidableEq, Inhabited

namespace ByteString

/-- The bytes of a text. -/
def ofString (text : String) : ByteString :=
  ⟨text.toList.flatMap String.utf8EncodeChar⟩

instance : Coe String ByteString :=
  ⟨ofString⟩

/-- The bytes as a text, with the replacement character in place of those that stand for none. -/
def lossy (name : ByteString) : String :=
  String.ofList (Text.decodeFrom none name.bytes)

/-- One string after another. -/
def append (first second : ByteString) : ByteString :=
  ⟨first.bytes ++ second.bytes⟩

instance : Append ByteString :=
  ⟨append⟩

end ByteString

end LiterateLinks
