import LiterateLinks.Json.Value
import LiterateLinks.Text.Quoted

/-!
# Reading JSON objects

The reader goes from left to right and stops at the first fault.  A fault is placed by the number of
bytes read when it is noticed.  Most faults are noticed by looking at the next byte, which then
counts as read; `Cursor.ahead` and `Cursor.here` tell the two apart.

Only an object is wanted: any other value is refused after it has been read, or, if it is an array,
before.  Values may be nested to a depth of 127, the object itself included.
-/

namespace LiterateLinks

namespace Json

/-- What is wrong with a source. -/
inductive Cause where
  | eofInList
  | eofInObject
  | eofInString
  | eofInValue
  | expectedColon
  | expectedListEnd
  | expectedObjectEnd
  | expectedWord
  | expectedValue
  | invalidEscape
  | invalidNumber
  | numberOutOfRange
  | controlCharacter
  | keyNotString
  | loneSurrogate
  | trailingComma
  | trailingCharacters
  | unexpectedEndOfEscape
  | tooDeep
  /-- The source is no object but the described value. -/
  | notObject (found : String)
  deriving Repr, DecidableEq

/-- The cause in words. -/
def Cause.message : Cause → String
  | .eofInList => "EOF while parsing a list"
  | .eofInObject => "EOF while parsing an object"
  | .eofInString => "EOF while parsing a string"
  | .eofInValue => "EOF while parsing a value"
  | .expectedColon => "expected `:`"
  | .expectedListEnd => "expected `,` or `]`"
  | .expectedObjectEnd => "expected `,` or `\x7d`"
  | .expectedWord => "expected ident"
  | .expectedValue => "expected value"
  | .invalidEscape => "invalid escape"
  | .invalidNumber => "invalid number"
  | .numberOutOfRange => "number out of range"
  | .controlCharacter => "control character (\\u0000-\\u001F) found while parsing a string"
  | .keyNotString => "key must be a string"
  | .loneSurrogate => "lone leading surrogate in hex escape"
  | .trailingComma => "trailing comma"
  | .trailingCharacters => "trailing characters"
  | .unexpectedEndOfEscape => "unexpected end of hex escape"
  | .tooDeep => "recursion limit exceeded"
  | .notObject found => "invalid type: " ++ found ++ ", expected a map"

/-- A fault and the number of bytes read when it was noticed. -/
structure Fault where
  cause : Cause
  offset : Nat
  deriving Repr, DecidableEq

/-- The line of an offset, counted from one, and the number of bytes before it in that line. -/
def position : Nat → Nat → List Char → Nat → Nat × Nat
  | line, column, [], _ => (line, column)
  | line, column, c :: cs, bytes =>
    if c.utf8Size ≤ bytes then
      if c = '\n' then position (line + 1) 0 cs (bytes - 1)
      else position line (column + c.utf8Size) cs (bytes - c.utf8Size)
    else (line, column + bytes)

/-- The fault in words, with its place in the source. -/
def Fault.message (source : String) (fault : Fault) : String :=
  let (line, column) := position 1 0 source.toList fault.offset
  fault.cause.message ++ " at line " ++ toString line ++ " column " ++ toString column

/-- The rest of a source and the number of bytes before it. -/
structure Cursor where
  rest : List Char
  offset : Nat
  deriving Repr, DecidableEq

namespace Cursor

/-- Takes the next character. -/
def next (cur : Cursor) : Cursor :=
  match cur.rest with
  | [] => cur
  | c :: cs => ⟨cs, cur.offset + c.utf8Size⟩

/-- Takes the characters that fit. -/
def skipWhile (p : Char → Bool) (cur : Cursor) : Cursor :=
  let skipped := cur.rest.takeWhile p
  ⟨cur.rest.dropWhile p, skipped.foldl (fun n c => n + c.utf8Size) cur.offset⟩

/-- Takes the blanks between tokens. -/
def skipBlanks (cur : Cursor) : Cursor :=
  cur.skipWhile fun c => c == ' ' || c == '\n' || c == '\t' || c == '\r'

/-- A fault noticed before the next byte. -/
def here {α : Type} (cur : Cursor) (cause : Cause) : Except Fault α :=
  .error ⟨cause, cur.offset⟩

/-- A fault noticed at the next byte, if there is one. -/
def ahead {α : Type} (cur : Cursor) (cause : Cause) : Except Fault α :=
  .error ⟨cause, if cur.rest.isEmpty then cur.offset else cur.offset + 1⟩

end Cursor

/-- Reads the rest of a word. -/
def readWord : List Char → Cursor → Except Fault Cursor
  | [], cur => .ok cur
  | w :: word, cur =>
    match cur.rest with
    | [] => cur.here .eofInValue
    | c :: _ => if c = w then readWord word cur.next else cur.ahead .expectedWord

/-! ### Strings -/

/-- The value of a hexadecimal digit. -/
def hexValue? (c : Char) : Option Nat :=
  if c.isDigit then some (c.toNat - '0'.toNat)
  else if 'a' ≤ c && c ≤ 'f' then some (c.toNat - 'a'.toNat + 10)
  else if 'A' ≤ c && c ≤ 'F' then some (c.toNat - 'A'.toNat + 10)
  else none

/-- Reads four hexadecimal digits. -/
def readHex (cur : Cursor) : Except Fault (Nat × Cursor) :=
  let bytes := (cur.rest.take 4).foldl (fun n c => n + c.utf8Size) 0
  match (cur.rest.take 4).mapM hexValue? with
  | some [a, b, c, d] =>
    .ok (((a * 16 + b) * 16 + c) * 16 + d, ⟨cur.rest.drop 4, cur.offset + 4⟩)
  | _ =>
    if bytes < 4 then .error ⟨.eofInString, cur.offset + bytes⟩
    else .error ⟨.invalidEscape, cur.offset + 4⟩

/-- Takes a given character of an escape. -/
def readEscapeMark (mark : Char) (cur : Cursor) : Except Fault Cursor :=
  match cur.rest with
  | [] => cur.here .eofInString
  | c :: _ => if c = mark then .ok cur.next else cur.ahead .unexpectedEndOfEscape

/-- Reads an escape by number.  Characters beyond the basic plane are written as a pair. -/
def readUnicodeEscape (cur : Cursor) : Except Fault (Char × Cursor) := do
  let (n, cur) ← readHex cur
  if 0xdc00 ≤ n && n ≤ 0xdfff then cur.here .loneSurrogate
  else if n < 0xd800 || 0xdbff < n then return (Char.ofNat n, cur)
  else
    let cur ← readEscapeMark '\\' cur
    let cur ← readEscapeMark 'u' cur
    let (m, cur) ← readHex cur
    if m < 0xdc00 || 0xdfff < m then cur.here .loneSurrogate
    else return (Char.ofNat ((n - 0xd800) * 0x400 + (m - 0xdc00) + 0x10000), cur)

/-- Reads what follows a backslash. -/
def readEscape (cur : Cursor) : Except Fault (Char × Cursor) :=
  match cur.rest with
  | [] => cur.here .eofInString
  | c :: _ =>
    match c with
    | '"' => .ok ('"', cur.next)
    | '\\' => .ok ('\\', cur.next)
    | '/' => .ok ('/', cur.next)
    | 'b' => .ok ('\x08', cur.next)
    | 'f' => .ok ('\x0c', cur.next)
    | 'n' => .ok ('\n', cur.next)
    | 'r' => .ok ('\r', cur.next)
    | 't' => .ok ('\t', cur.next)
    | 'u' => readUnicodeEscape cur.next
    | _ => cur.ahead .invalidEscape

/-- Reads a string from after its opening quotation mark.  Every round reads a character, so the
length of the rest is fuel enough. -/
def readStringFrom : Nat → List Char → Cursor → Except Fault (String × Cursor)
  | 0, _, cur => cur.here .eofInString
  | fuel + 1, content, cur =>
    match cur.rest with
    | [] => cur.here .eofInString
    | c :: _ =>
      if c = '"' then .ok (String.ofList content.reverse, cur.next)
      else if c = '\\' then
        match readEscape cur.next with
        | .ok (escaped, cur) => readStringFrom fuel (escaped :: content) cur
        | .error fault => .error fault
      else if c.toNat < 0x20 then cur.ahead .controlCharacter
      else readStringFrom fuel (c :: content) cur.next

/-- Reads a string from after its opening quotation mark. -/
def readString (cur : Cursor) : Except Fault (String × Cursor) :=
  readStringFrom (cur.rest.length + 1) [] cur

/-! ### Numbers

A number that is no whole number of 64 bits is read as its first digits, as many as 64 bits hold,
times a power of ten, and the two are multiplied or divided as doubles. -/

/-- Whether another digit fits into a number below the limit. -/
def overflows (limit n digit : Nat) : Bool :=
  limit / 10 ≤ n && (limit / 10 < n || limit % 10 < digit)

/-- The largest number of 64 bits. -/
def maxSignificand : Nat := 0xffffffffffffffff

/-- The largest exponent that is told from infinity. -/
def maxExponent : Nat := 0x7fffffff

/-- The value of a decimal digit. -/
def digitValue (c : Char) : Nat :=
  c.toNat - '0'.toNat

/-- The power of ten as a double. -/
def powerOfTen (n : Nat) : Float :=
  Float.ofScientific 1 false n

/-- Scales a double by a power of ten; `none` when it gets too large.  Three rounds reach zero from
the largest significand, so the fuel is never used up. -/
def scaleDouble : Nat → Float → Int → Option Float
  | 0, f, _ => some f
  | fuel + 1, f, e =>
    if e.natAbs ≤ 308 then
      if 0 ≤ e then
        let g := f * powerOfTen e.natAbs
        if g.isInf then none else some g
      else some (f / powerOfTen e.natAbs)
    else if f == 0 then some f
    else if 0 ≤ e then none
    else scaleDouble fuel (f / powerOfTen 308) (e + 308)

/-- The double with the given sign, digits and exponent. -/
def finishDouble (positive : Bool) (significand : Nat) (e : Int) (cur : Cursor) :
    Except Fault (Float × Cursor) :=
  match scaleDouble 8 significand.toUInt64.toFloat e with
  | some f => .ok (if positive then f else -f, cur)
  | none => cur.here .numberOutOfRange

/-- Keeps an exponent within 32 bits. -/
def clampExponent (e : Int) : Int :=
  max (-0x80000000) (min 0x7fffffff e)

/-- Reads the digits of an exponent.  The list holds the digits that are left. -/
def readExponentDigits (positive positiveExponent : Bool) (significand : Nat) (start : Int) :
    List Char → Nat → Cursor → Except Fault (Float × Cursor)
  | [], e, cur =>
    finishDouble positive significand
      (clampExponent (if positiveExponent then start + e else start - e)) cur
  | d :: ds, e, cur =>
    let cur := cur.next
    if overflows maxExponent e (digitValue d) then
      if significand != 0 && positiveExponent then cur.here .numberOutOfRange
      else .ok (if positive then 0.0 else -0.0, cur.skipWhile Char.isDigit)
    else
      readExponentDigits positive positiveExponent significand start ds (e * 10 + digitValue d) cur

/-- Reads an exponent from its letter on. -/
def readExponent (positive : Bool) (significand : Nat) (start : Int) (cur : Cursor) :
    Except Fault (Float × Cursor) :=
  let cur := cur.next
  let positiveExponent := cur.rest.head? != some '-'
  let cur := if cur.rest.head? == some '+' || cur.rest.head? == some '-' then cur.next else cur
  match cur.rest with
  | [] => cur.here .eofInValue
  | d :: rest =>
    if d.isDigit then
      readExponentDigits positive positiveExponent significand start (rest.takeWhile Char.isDigit)
        (digitValue d) cur.next
    else cur.ahead .invalidNumber

/-- Reads what may follow the digits of a double. -/
def readDoubleEnd (positive : Bool) (significand : Nat) (e : Int) (cur : Cursor) :
    Except Fault (Float × Cursor) :=
  if cur.rest.head? == some 'e' || cur.rest.head? == some 'E' then
    readExponent positive significand e cur
  else finishDouble positive significand e cur

/-- Reads the digits after a point.  The list holds the digits that are left; those that do not fit
are ignored. -/
def readFraction (positive : Bool) : List Char → Nat → Int → Cursor → Except Fault (Float × Cursor)
  | [], significand, e, cur => readDoubleEnd positive significand e cur
  | d :: ds, significand, e, cur =>
    if overflows maxSignificand significand (digitValue d) then
      readDoubleEnd positive significand e (cur.skipWhile Char.isDigit)
    else readFraction positive ds (significand * 10 + digitValue d) (e - 1) cur.next

/-- Reads a fraction from its point on. -/
def readPoint (positive : Bool) (significand : Nat) (e : Int) (cur : Cursor) :
    Except Fault (Float × Cursor) :=
  let cur := cur.next
  match cur.rest with
  | [] => cur.ahead .eofInValue
  | c :: _ =>
    if c.isDigit then readFraction positive (cur.rest.takeWhile Char.isDigit) significand e cur
    else cur.ahead .invalidNumber

/-- Reads the end of a number whose whole part is known; `extra` digits of it did not fit. -/
def readNumberEnd (positive : Bool) (significand extra : Nat) (cur : Cursor) :
    Except Fault (JsonNumber × Cursor) :=
  let double (r : Except Fault (Float × Cursor)) : Except Fault (JsonNumber × Cursor) := do
    let (x, cur) ← r
    return (.double x, cur)
  if cur.rest.head? == some '.' then double (readPoint positive significand extra cur)
  else if cur.rest.head? == some 'e' || cur.rest.head? == some 'E' then
    double (readExponent positive significand extra cur)
  else if extra ≠ 0 then double (finishDouble positive significand extra cur)
  else if positive then .ok (.integer significand, cur)
  else if significand = 0 || 0x8000000000000000 < significand then
    .ok (.double (-significand.toUInt64.toFloat), cur)
  else .ok (.integer (-(significand : Int)), cur)

/-- Reads the digits of a whole part.  The list holds the digits that are left. -/
def readDigits (positive : Bool) : List Char → Nat → Cursor → Except Fault (JsonNumber × Cursor)
  | [], significand, cur => readNumberEnd positive significand 0 cur
  | d :: ds, significand, cur =>
    if overflows maxSignificand significand (digitValue d) then
      readNumberEnd positive significand (ds.length + 1) (cur.skipWhile Char.isDigit)
    else readDigits positive ds (significand * 10 + digitValue d) cur.next

/-- Reads a number from after its sign. -/
def readNumber (positive : Bool) (cur : Cursor) : Except Fault (JsonNumber × Cursor) :=
  match cur.rest with
  | [] => cur.here .eofInValue
  | c :: _ =>
    if c = '0' then
      if cur.next.rest.head?.any Char.isDigit then cur.next.ahead .invalidNumber
      else readNumberEnd positive 0 0 cur.next
    else if c.isDigit then readDigits positive (cur.rest.takeWhile Char.isDigit) 0 cur
    else cur.ahead .invalidNumber

/-! ### Values -/

/-- Reads a value that holds no other values: a word, a number or a string; `none` for an array or
an object, of which nothing is read. -/
def readScalar (cur : Cursor) : Except Fault (Option (JsonValue × Cursor)) := do
  match cur.rest with
  | [] => cur.ahead .eofInValue
  | c :: _ =>
    match c with
    | 'n' => return some (.null, ← readWord "ull".toList cur.next)
    | 't' => return some (.bool true, ← readWord "rue".toList cur.next)
    | 'f' => return some (.bool false, ← readWord "alse".toList cur.next)
    | '"' =>
      let (s, cur) ← readString cur.next
      return some (.string s, cur)
    | '-' =>
      let (n, cur) ← readNumber false cur.next
      return some (.number n, cur)
    | '[' | '\x7b' => return none
    | c =>
      if c.isDigit then
        let (n, cur) ← readNumber true cur
        return some (.number n, cur)
      else cur.ahead .expectedValue

/-- Looks for the next element of an array: whether there is one, and where. -/
def nextElement (first : Bool) (cur : Cursor) : Except Fault (Bool × Cursor) :=
  let cur := cur.skipBlanks
  match cur.rest with
  | [] => cur.ahead .eofInList
  | c :: _ =>
    if c = ']' then .ok (false, cur)
    else if first then .ok (true, cur)
    else if c = ',' then
      let cur := cur.next.skipBlanks
      match cur.rest with
      | [] => cur.ahead .eofInValue
      | c :: _ => if c = ']' then cur.ahead .trailingComma else .ok (true, cur)
    else cur.ahead .expectedListEnd

/-- Looks for the next key of an object: whether there is one, and where. -/
def nextKey (first : Bool) (cur : Cursor) : Except Fault (Bool × Cursor) :=
  let cur := cur.skipBlanks
  match cur.rest with
  | [] => cur.ahead .eofInObject
  | c :: _ =>
    if c = '\x7d' then .ok (false, cur)
    else if first then if c = '"' then .ok (true, cur) else cur.ahead .keyNotString
    else if c = ',' then
      let cur := cur.next.skipBlanks
      match cur.rest with
      | [] => cur.ahead .eofInValue
      | c :: _ =>
        if c = '"' then .ok (true, cur)
        else if c = '\x7d' then cur.ahead .trailingComma
        else cur.ahead .keyNotString
    else cur.ahead .expectedObjectEnd

/-- Takes the colon between a key and its value. -/
def readColon (cur : Cursor) : Except Fault Cursor :=
  let cur := cur.skipBlanks
  match cur.rest with
  | [] => cur.ahead .eofInObject
  | c :: _ => if c = ':' then .ok cur.next else cur.ahead .expectedColon

mutual

/-- Reads a value.  `depth` more levels may be opened.  Every call reads a character or is made by
one that does, so the fuel of `readMembers` is enough. -/
def readValue : Nat → Nat → Cursor → Except Fault (JsonValue × Cursor)
  | 0, _, cur => cur.ahead .eofInValue
  | fuel + 1, depth, cur => do
    let cur := cur.skipBlanks
    match ← readScalar cur with
    | some result => return result
    | none =>
      if depth = 0 then cur.ahead .tooDeep
      else if cur.rest.head? == some '[' then
        let (elements, cur) ← readElements fuel (depth - 1) true cur.next
        return (.array elements, cur)
      else
        let (members, cur) ← readMembers fuel (depth - 1) true cur.next
        return (.object members, cur)

/-- Reads the elements of an array and its closing bracket. -/
def readElements : Nat → Nat → Bool → Cursor → Except Fault (List JsonValue × Cursor)
  | 0, _, _, cur => cur.ahead .eofInList
  | fuel + 1, depth, first, cur => do
    let (more, cur) ← nextElement first cur
    if more then
      let (v, cur) ← readValue fuel depth cur
      let (vs, cur) ← readElements fuel depth false cur
      return (v :: vs, cur)
    else return ([], cur.next)

/-- Reads the members of an object and its closing brace. -/
def readMembers : Nat → Nat → Bool → Cursor → Except Fault (List (String × JsonValue) × Cursor)
  | 0, _, _, cur => cur.ahead .eofInObject
  | fuel + 1, depth, first, cur => do
    let (more, cur) ← nextKey first cur
    if more then
      let (key, cur) ← readString cur.next
      let cur ← readColon cur
      let (v, cur) ← readValue fuel depth cur
      let (rest, cur) ← readMembers fuel depth false cur
      return ((key, v) :: rest, cur)
    else return ([], cur.next)

end

/-- How a value that is no object is described. -/
def describe : JsonValue → String
  | .null => "null"
  | .bool b => "boolean `" ++ (if b then "true" else "false") ++ "`"
  | .number (.integer n) => "integer `" ++ (JsonNumber.integer n).render ++ "`"
  | .number (.double x) => "floating point `" ++ JsonNumber.renderDouble x ++ "`"
  | .string s => "string " ++ Text.quoted s
  | .array _ => "sequence"
  | .object _ => "map"

/-- The number of levels that may be opened below the outermost object. -/
def maxDepth : Nat := 126

/-- Reads a source that is to be one object: its members, in order and with repetitions. -/
def parseObject (source : String) : Except Fault (List (String × JsonValue)) := do
  let cur := Cursor.skipBlanks ⟨source.toList, 0⟩
  match ← readScalar cur with
  | some (value, cur) => cur.here (.notObject (describe value))
  | none =>
    if cur.rest.head? == some '[' then cur.here (.notObject (describe (.array [])))
    else
      let (members, cur) ← readMembers (2 * cur.rest.length + 2) maxDepth true cur.next
      let cur := cur.skipBlanks
      if cur.rest.isEmpty then return members else cur.ahead .trailingCharacters

end Json

end LiterateLinks
