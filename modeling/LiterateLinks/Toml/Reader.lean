import LiterateLinks.Toml.Number
import LiterateLinks.Toml.Table

/-!
# Reading TOML

A document is a list of lines: keys with their values, headers of tables, comments.  Values may go
on over several lines in brackets.  A document that is not in order is refused as a whole.
-/

namespace LiterateLinks

namespace Toml

/-- Skips a comment, if there is one. -/
def skipComment : List Char → List Char
  | '#' :: rest => rest.dropWhile isPlain
  | text => text

/-- What follows the end of a line, after blanks and a comment. -/
def endLine? (text : List Char) : Option (List Char) :=
  let rest := skipComment (text.dropWhile isSpace)
  if rest.isEmpty then some [] else afterNewline? rest

/-- Skips blanks, comments and line ends.  A comment must end its line. -/
def skipLines : Nat → List Char → Option (List Char)
  | 0, text => some text
  | fuel + 1, text =>
    let text := text.dropWhile isSpace
    match text with
    | '#' :: _ =>
      match afterNewline? (skipComment text) with
      | some rest => skipLines fuel rest
      | none => none
    | c :: _ =>
      if c = '\n' || c = '\r' then
        match afterNewline? text with
        | some rest => skipLines fuel rest
        | none => none
      else some text
    | [] => some []

/-- Reads a value that holds no other values. -/
def readScalar (text : List Char) : Option (Setting × List Char) :=
  match text with
  | 't' :: 'r' :: 'u' :: 'e' :: rest => some (.flag true, rest)
  | 'f' :: 'a' :: 'l' :: 's' :: 'e' :: rest => some (.flag false, rest)
  | c :: _ =>
    if c = '"' || c = '\'' then (readString text).map fun (s, rest) => (.text s, rest)
    else if beginsDate text || beginsTime text then
      (readMoment text).map fun (s, rest) => (.text s, rest)
    else readNumber text
  | [] => none

mutual

/-- Reads a value.  `depth` more brackets may be opened.  Every call reads a character or is made by
one that does. -/
def readValue : Nat → Nat → List Char → Option (Setting × List Char)
  | 0, _, _ => none
  | fuel + 1, depth, text =>
    match text with
    | '[' :: rest =>
      if depth = 0 then none
      else
        match skipLines rest.length rest with
        | some (']' :: rest) => some (.array [], rest)
        | some rest =>
          (readElements fuel (depth - 1) rest).map fun (elements, rest) => (.array elements, rest)
        | none => none
    | '\x7b' :: rest =>
      if depth = 0 then none
      else
        match rest.dropWhile isSpace with
        | '\x7d' :: rest => some (.table [], rest)
        | rest =>
          match readPairs fuel (depth - 1) rest with
          | some (pairs, rest) =>
            (Entries.ofPairs? pairs).map fun entries => (.table (toSettings entries), rest)
          | none => none
    | text => readScalar text

/-- Reads the elements of an array and its closing bracket. -/
def readElements : Nat → Nat → List Char → Option (List Setting × List Char)
  | 0, _, _ => none
  | fuel + 1, depth, text => do
    let (value, rest) ← readValue fuel depth text
    match ← skipLines rest.length rest with
    | ']' :: rest => return ([value], rest)
    | ',' :: rest =>
      match ← skipLines rest.length rest with
      | ']' :: rest => return ([value], rest)
      | rest =>
        let (values, rest) ← readElements fuel depth rest
        return (value :: values, rest)
    | _ => none

/-- Reads the pairs of a table in braces and its closing brace. -/
def readPairs : Nat → Nat → List Char → Option (List (List String × Setting) × List Char)
  | 0, _, _ => none
  | fuel + 1, depth, text => do
    let (names, rest) ← readKey text
    let rest ← readChar '=' rest
    let (value, rest) ← readValue fuel depth (rest.dropWhile isSpace)
    match rest.dropWhile isSpace with
    | '\x7d' :: rest => return ([(names, value)], rest)
    | ',' :: rest =>
      let (pairs, rest) ← readPairs fuel depth rest
      return ((names, value) :: pairs, rest)
    | _ => none

end

/-- The number of brackets that may be open at once. -/
def maxDepth : Nat := 79

/-- A document that is read up to a line: the tables so far, and the names of the header that lines
belong to. -/
structure Reader where
  root : Entries := []
  header : List String := []

/-- Reads the header of a table, after its first bracket. -/
def readHeader (state : Reader) (text : List Char) : Option (Reader × List Char) := do
  match text with
  | '[' :: rest =>
    let (names, rest) ← readKey rest
    let rest ← readChar ']' (← readChar ']' rest)
    return (⟨← state.root.append? names, names⟩, ← endLine? rest)
  | text =>
    let (names, rest) ← readKey text
    let rest ← readChar ']' rest
    return (⟨← state.root.open? names, names⟩, ← endLine? rest)

/-- Reads a key with its value. -/
def readPair (state : Reader) (text : List Char) : Option (Reader × List Char) := do
  let (names, rest) ← readKey text
  let rest ← readChar '=' rest
  let (value, rest) ← readValue (2 * text.length + 2) maxDepth (rest.dropWhile isSpace)
  return ({ state with root := ← state.root.insertAt? state.header names value }, ← endLine? rest)

/-- Reads lines to the end.  Every round reads a character. -/
def readLines : Nat → Reader → List Char → Option Reader
  | 0, _, _ => none
  | fuel + 1, state, text =>
    match text.dropWhile isSpace with
    | [] => some state
    | '[' :: rest => do
      let (state, rest) ← readHeader state rest
      readLines fuel state rest
    | c :: rest =>
      if c = '#' || c = '\n' || c = '\r' then do
        readLines fuel state (← endLine? (c :: rest))
      else do
        let (state, rest) ← readPair state (c :: rest)
        readLines fuel state rest

/-- Reads a document: the entries of its outermost table.  A byte order mark before it is
skipped. -/
def parse? (source : String) : Option (List (String × Setting)) :=
  let text := match source.toList with
    | '\ufeff' :: rest => rest
    | text => text
  (readLines (text.length + 1) {} text).map fun state => toSettings state.root

end Toml

end LiterateLinks
