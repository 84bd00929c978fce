import LiterateLinks.Html.Reference.Names

/-!
# Character references

A reference stands for one or two characters and is written as an ampersand with a number or a name.
An ampersand that starts no reference stands for itself.  In an attribute value a name without its
semicolon is no reference when it could be part of something longer, such as a query in an address.
-/

namespace LiterateLinks

namespace Html

namespace Reference

/-- The character shown for code points that are no characters. -/
def replacement : Char := '\ufffd'

/-- The characters meant by the numbers 128 to 159, which pages use as if they were bytes of a
western code page. -/
def westernCodes : List (Nat × Nat) :=
  [(0x80, 0x20ac), (0x82, 0x201a), (0x83, 0x192), (0x84, 0x201e), (0x85, 0x2026), (0x86, 0x2020),
    (0x87, 0x2021), (0x88, 0x2c6), (0x89, 0x2030), (0x8a, 0x160), (0x8b, 0x2039), (0x8c, 0x152),
    (0x8e, 0x17d), (0x91, 0x2018), (0x92, 0x2019), (0x93, 0x201c), (0x94, 0x201d), (0x95, 0x2022),
    (0x96, 0x2013), (0x97, 0x2014), (0x98, 0x2dc), (0x99, 0x2122), (0x9a, 0x161), (0x9b, 0x203a),
    (0x9c, 0x153), (0x9e, 0x17e), (0x9f, 0x178)]

/-- The character with the given number. -/
def ofNumber (n : Nat) : Char :=
  match westernCodes.lookup n with
  | some code => Char.ofNat code
  | none =>
    if n = 0 || 0x10ffff < n || (0xd800 ≤ n && n ≤ 0xdfff) then replacement else Char.ofNat n

/-- The value of a hexadecimal digit in either case, or of a decimal one. -/
def digitValue (c : Char) : Nat :=
  if c.isDigit then c.toNat - '0'.toNat
  else if 'a' ≤ c then c.toNat - 'a'.toNat + 10
  else c.toNat - 'A'.toNat + 10

/-- Whether the character is a hexadecimal digit. -/
def isHexDigit (c : Char) : Bool :=
  c.isDigit || ('a' ≤ c && c ≤ 'f') || ('A' ≤ c && c ≤ 'F')

/-- The number written by some digits. -/
def numberOf (base : Nat) (digits : List Char) : Nat :=
  digits.foldl (fun n c => n * base + digitValue c) 0

/-- Leaves out a semicolon in front. -/
def skipSemicolon : List Char → List Char
  | ';' :: rest => rest
  | rest => rest

/-- Reads the digits of a numeric reference. -/
def readDigits? (base : Nat) (isDigit : Char → Bool) (text : List Char) :
    Option (List Char × List Char) :=
  let digits := text.takeWhile isDigit
  if digits.isEmpty then none
  else some ([ofNumber (numberOf base digits)], skipSemicolon (text.dropWhile isDigit))

/-- Whether the text opens with a numeric reference that lacks its semicolon. -/
def opensBroken : List Char → Bool
  | '&' :: '#' :: 'x' :: rest | '&' :: '#' :: 'X' :: rest =>
    (rest.dropWhile isHexDigit).head? != some ';'
  | '&' :: '#' :: rest => (rest.dropWhile Char.isDigit).head? != some ';'
  | _ => false

/-- Whether a name without a semicolon is part of something longer. -/
def runsOn : List Char → Bool
  | c :: _ => c == '=' || c.isAlphanum
  | [] => false

/-- Reads a named reference whose first letter is given. -/
def readName? (inAttribute : Bool) (first : Char) (text : List Char) :
    Option (List Char × List Char) := do
  let (name, codes) ← (namesFrom first).find? fun entry => entry.1.toList.isPrefixOf text
  let rest := text.drop name.length
  if inAttribute && name.toList.getLast? != some ';' && runsOn rest then none
  else some (codes.map Char.ofNat, rest)

/-- Reads the reference that follows an ampersand: its characters and the text after it. -/
def read? (inAttribute : Bool) : List Char → Option (List Char × List Char)
  | '#' :: 'x' :: rest | '#' :: 'X' :: rest => readDigits? 16 isHexDigit rest
  | '#' :: rest => readDigits? 10 Char.isDigit rest
  | c :: rest => readName? inAttribute c rest
  | [] => none

/-- Replaces the references of a text.  The first argument counts the characters that still belong
to the last reference. -/
def decodeFrom (inAttribute : Bool) : Nat → List Char → List Char
  | _, [] => []
  | hidden + 1, _ :: cs => decodeFrom inAttribute hidden cs
  | 0, c :: cs =>
    if c = '&' then
      match read? inAttribute cs with
      | some (chars, rest) => chars ++ decodeFrom inAttribute (cs.length - rest.length) cs
      | none => c :: decodeFrom inAttribute 0 cs
    else c :: decodeFrom inAttribute 0 cs

/-- Replaces the references of a text. -/
def decode (inAttribute : Bool) (text : List Char) : List Char :=
  decodeFrom inAttribute 0 text

end Reference

end Html

end LiterateLinks
