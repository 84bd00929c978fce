/-!
# Text in bytes

Files hold bytes, and the bytes of a text are its characters in UTF-8.  Where a source is read
leniently, every longest beginning of a character that is not completed, and every byte that begins
no character, becomes the replacement character.
-/

namespace LiterateLinks

namespace Text

/-- The character in place of bytes that stand for none. -/
def replacement : Char := '\ufffd'

/-- A character whose first bytes are read: how many are left, what they stand for so far, and the
range that the next byte must lie in. -/
structure Partial where
  left : Nat
  value : Nat
  lo : UInt8 := 0x80
  hi : UInt8 := 0xbf

/-- What the first byte of a character says: the character itself, the bytes to follow, or
nothing. -/
def leadByte (b : UInt8) : List Char × Option Partial :=
  if b < 0x80 then ([Char.ofNat b.toNat], none)
  else if 0xc2 ≤ b && b ≤ 0xdf then ([], some ⟨1, b.toNat - 0xc0, 0x80, 0xbf⟩)
  else if b = 0xe0 then ([], some ⟨2, 0, 0xa0, 0xbf⟩)
  else if b = 0xed then ([], some ⟨2, 0xd, 0x80, 0x9f⟩)
  else if 0xe1 ≤ b && b ≤ 0xef then ([], some ⟨2, b.toNat - 0xe0, 0x80, 0xbf⟩)
  else if b = 0xf0 then ([], some ⟨3, 0, 0x90, 0xbf⟩)
  else if 0xf1 ≤ b && b ≤ 0xf3 then ([], some ⟨3, b.toNat - 0xf0, 0x80, 0xbf⟩)
  else if b = 0xf4 then ([], some ⟨3, 4, 0x80, 0x8f⟩)
  else ([replacement], none)

/-- The characters of bytes, read leniently, after a character that may be half read. -/
def decodeFrom : Option Partial → List UInt8 → List Char
  | none, [] => []
  | some _, [] => [replacement]
  | none, b :: bs =>
    let (chars, open?) := leadByte b
    chars ++ decodeFrom open? bs
  | some p, b :: bs =>
    if p.lo ≤ b && b ≤ p.hi then
      let value := p.value * 64 + (b.toNat - 0x80)
      if p.left ≤ 1 then Char.ofNat value :: decodeFrom none bs
      else decodeFrom (some { left := p.left - 1, value }) bs
    else
      let (chars, open?) := leadByte b
      replacement :: chars ++ decodeFrom open? bs

/-- The text of bytes, read leniently. -/
def decodeLenient (bytes : ByteArray) : String :=
  String.ofList (decodeFrom none bytes.toList)

end Text

end LiterateLinks
