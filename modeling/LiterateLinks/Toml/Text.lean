/-!
# Strings and keys in TOML

Every reader takes the characters from its first one on and gives what it read and the rest, or
`none` if the characters are not in order.

A string in three quotation marks may hold line ends, and one or two quotation marks in a row; such
a row may also stand right before the three that close it.
-/

namespace LiterateLinks

namespace Toml

/-- Whether a character may stand in a comment or a string: all but controls, the tab excepted. -/
def isPlain (c : Char) : Bool :=
  c == '\t' || (0x20 ≤ c.toNat && c.toNat != 0x7f)

/-- Whether a character is a blank within a line. -/
def isSpace (c : Char) : Bool :=
  c == ' ' || c == '\t'

/-- What follows a line end, if there is one. -/
def afterNewline? : List Char → Option (List Char)
  | '\n' :: rest => some rest
  | '\r' :: '\n' :: rest => some rest
  | _ => none

/-- The value of a hexadecimal digit. -/
def hexDigit? (c : Char) : Option Nat :=
  if c.isDigit then some (c.toNat - '0'.toNat)
  else if 'a' ≤ c && c ≤ 'f' then some (c.toNat - 'a'.toNat + 10)
  else if 'A' ≤ c && c ≤ 'F' then some (c.toNat - 'A'.toNat + 10)
  else none

/-- Reads the number of a character, in a given count of hexadecimal digits. -/
def hexEscape (count : Nat) (text : List Char) : Option (Char × List Char) :=
  match (text.take count).mapM hexDigit? with
  | some digits =>
    let n := digits.foldl (fun n d => n * 16 + d) 0
    if digits.length = count && (n < 0xd800 || (0xdfff < n && n < 0x110000)) then
      some (Char.ofNat n, text.drop count)
    else none
  | none => none

/-- Reads an escape after its backslash. -/
def escape : List Char → Option (Char × List Char)
  | 'b' :: rest => some ('\x08', rest)
  | 'f' :: rest => some ('\x0c', rest)
  | 'n' :: rest => some ('\n', rest)
  | 'r' :: rest => some ('\r', rest)
  | 't' :: rest => some ('\t', rest)
  | '\\' :: rest => some ('\\', rest)
  | '"' :: rest => some ('"', rest)
  | 'u' :: rest => hexEscape 4 rest
  | 'U' :: rest => hexEscape 8 rest
  | _ => none

/-- Reads a string of one line after its quotation mark.  Every round reads a character. -/
def basicString : Nat → List Char → List Char → Option (String × List Char)
  | 0, _, _ => none
  | fuel + 1, content, text =>
    match text with
    | [] => none
    | '"' :: rest => some (String.ofList content.reverse, rest)
    | '\\' :: rest =>
      match escape rest with
      | some (c, rest) => basicString fuel (c :: content) rest
      | none => none
    | c :: rest => if isPlain c then basicString fuel (c :: content) rest else none

/-- Reads a string of one line without escapes after its quotation mark. -/
def literalString : List Char → List Char → Option (String × List Char)
  | _, [] => none
  | content, c :: rest =>
    if c = '\'' then some (String.ofList content.reverse, rest)
    else if isPlain c then literalString (c :: content) rest
    else none

/-- What follows a backslash at a line end: the text without the blanks and line ends up to the next
character. -/
def afterFold? (text : List Char) : Option (List Char) :=
  (afterNewline? (text.dropWhile isSpace)).map skip
where
  /-- Skips blanks and line ends. -/
  skip : List Char → List Char
    | '\r' :: '\n' :: rest => skip rest
    | c :: rest => if isSpace c || c == '\n' then skip rest else c :: rest
    | [] => []

/-- Reads a string of several lines after its quotation marks. -/
def longString (quote : Char) (escapes : Bool) :
    Nat → List Char → List Char → Option (String × List Char)
  | 0, _, _ => none
  | fuel + 1, content, text =>
    match text with
    | [] => none
    | c :: rest =>
      if c = quote then
        let row := (text.takeWhile (· == quote)).length
        if row < 3 then
          longString quote escapes fuel (List.replicate row quote ++ content) (text.drop row)
        else if row < 6 then
          some (String.ofList (List.replicate (row - 3) quote ++ content).reverse, text.drop row)
        else none
      else if escapes && c == '\\' then
        match afterFold? rest with
        | some rest => longString quote escapes fuel content rest
        | none =>
          match escape rest with
          | some (e, rest) => longString quote escapes fuel (e :: content) rest
          | none => none
      else
        match afterNewline? text with
        | some rest => longString quote escapes fuel ('\n' :: content) rest
        | none =>
          if isPlain c then longString quote escapes fuel (c :: content) rest else none

/-- Reads a string of either kind and of any number of lines. -/
def readString (text : List Char) : Option (String × List Char) :=
  let long (quote : Char) (escapes : Bool) (rest : List Char) : Option (String × List Char) :=
    longString quote escapes (rest.length + 1) [] ((afterNewline? rest).getD rest)
  match text with
  | '"' :: '"' :: '"' :: rest => long '"' true rest
  | '\'' :: '\'' :: '\'' :: rest => long '\'' false rest
  | '"' :: rest => basicString (rest.length + 1) [] rest
  | '\'' :: rest => literalString [] rest
  | _ => none

/-! ### Keys -/

/-- Characters of a key without quotation marks. -/
def isBareKeyChar (c : Char) : Bool :=
  c.isAlphanum || c == '_' || c == '-'

/-- Reads one name of a key. -/
def readName (text : List Char) : Option (String × List Char) :=
  match text with
  | '"' :: rest => basicString (rest.length + 1) [] rest
  | '\'' :: rest => literalString [] rest
  | text =>
    let name := text.takeWhile isBareKeyChar
    if name.isEmpty then none else some (String.ofList name, text.dropWhile isBareKeyChar)

/-- Reads a key, names with dots between them, and the blanks around the names. -/
def readKeyNames : Nat → List Char → Option (List String × List Char)
  | 0, _ => none
  | fuel + 1, text =>
    match readName (text.dropWhile isSpace) with
    | none => none
    | some (name, rest) =>
      match rest.dropWhile isSpace with
      | '.' :: rest =>
        match readKeyNames fuel rest with
        | some (names, rest) => some (name :: names, rest)
        | none => none
      | rest => some ([name], rest)

/-- Reads a key of at most 79 names. -/
def readKey (text : List Char) : Option (List String × List Char) :=
  readKeyNames 79 text

end Toml

end LiterateLinks
