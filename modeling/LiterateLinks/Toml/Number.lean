import LiterateLinks.Settings.Value
import LiterateLinks.Toml.Text

/-!
# Numbers and dates in TOML

A number is an integer of 64 bits or a double.  Four digits and a hyphen begin a date, two digits
and a colon a time of day; either is kept as the text of its usual form.
-/

namespace LiterateLinks

namespace Toml

/-- Reads digits after the first.  A line between digits groups them. -/
def moreDigits (isDigit : Char → Bool) : List Char → Option (List Char × List Char)
  | [] => some ([], [])
  | '_' :: rest =>
    match rest with
    | d :: _ =>
      if isDigit d then moreDigits isDigit rest else none
    | [] => none
  | c :: rest =>
    if isDigit c then
      match moreDigits isDigit rest with
      | some (digits, rest) => some (c :: digits, rest)
      | none => none
    else some ([], c :: rest)

/-- Reads digits, one at least. -/
def readDigits (isDigit : Char → Bool) : List Char → Option (List Char × List Char)
  | c :: rest =>
    if isDigit c then
      match moreDigits isDigit rest with
      | some (digits, rest) => some (c :: digits, rest)
      | none => none
    else none
  | [] => none

/-- The value of digits in a base. -/
def ofDigits (base : Nat) (digits : List Char) : Nat :=
  digits.foldl (fun n c => n * base + (hexDigit? c).getD 0) 0

/-- An integer, if 64 bits hold it. -/
def integer? (n : Int) : Option Setting :=
  if -0x8000000000000000 ≤ n && n < 0x8000000000000000 then some (.integer n) else none

/-- The double of a decimal.  Decimals far from all doubles are told by the exponent of their first
digit. -/
def toFloat (digits : Nat) (exponent : Int) : Float :=
  let first := (Nat.toDigits 10 digits).length + exponent
  if digits = 0 || first < -330 then 0.0
  else if 310 < first then 1.0 / 0.0
  else Float.ofScientific digits (exponent < 0) exponent.natAbs

/-- Reads an exponent after its letter. -/
def readExponent (text : List Char) : Option (Int × List Char) :=
  let negative := text.head? == some '-'
  let text := if negative || text.head? == some '+' then text.tail else text
  match readDigits Char.isDigit text with
  | some (digits, rest) =>
    let n : Int := ofDigits 10 digits
    some (if negative then -n else n, rest)
  | none => none

/-- Reads what follows the whole part of a number.  A double may be negative infinity, but not the
positive one. -/
def readNumberEnd (negative : Bool) (whole text : List Char) : Option (Setting × List Char) :=
  let double (fraction : List Char) (exponent : Int) (rest : List Char) :
      Option (Setting × List Char) :=
    let x := toFloat (ofDigits 10 (whole ++ fraction)) (exponent - fraction.length)
    if negative then some (.float (-x), rest)
    else if x.isInf then none
    else some (.float x, rest)
  let withExponent (fraction text : List Char) (orElse : Option (Setting × List Char)) :
      Option (Setting × List Char) :=
    match text with
    | c :: rest =>
      if c = 'e' || c = 'E' then
        match readExponent rest with
        | some (e, rest) => double fraction e rest
        | none => none
      else orElse
    | [] => orElse
  match text with
  | '.' :: rest =>
    match readDigits Char.isDigit rest with
    | some (fraction, rest) => withExponent fraction rest (double fraction 0 rest)
    | none => none
  | text =>
    let n : Int := ofDigits 10 whole
    withExponent [] text ((integer? (if negative then -n else n)).map (·, text))

/-- Reads a number in digits of a base. -/
def readBased (base : Nat) (isDigit : Char → Bool) (text : List Char) :
    Option (Setting × List Char) :=
  match readDigits isDigit text with
  | some (digits, rest) => (integer? (ofDigits base digits)).map (·, rest)
  | none => none

/-- Reads the words for infinity and for no number. -/
def readSpecial (negative : Bool) : List Char → Option (Setting × List Char)
  | 'i' :: 'n' :: 'f' :: rest =>
    some (.float (if negative then -(1.0 / 0.0) else 1.0 / 0.0), rest)
  | 'n' :: 'a' :: 'n' :: rest => some (.float (0.0 / 0.0), rest)
  | _ => none

/-- Reads a decimal number after its sign.  A zero at the start stands alone. -/
def readDecimal (negative : Bool) (text : List Char) : Option (Setting × List Char) :=
  match text with
  | '0' :: rest => readNumberEnd negative ['0'] rest
  | c :: _ =>
    if c.isDigit then
      match readDigits Char.isDigit text with
      | some (whole, rest) => readNumberEnd negative whole rest
      | none => none
    else readSpecial negative text
  | [] => none

/-- Reads a number. -/
def readNumber : List Char → Option (Setting × List Char)
  | '0' :: 'x' :: rest => readBased 16 (fun c => (hexDigit? c).isSome) rest
  | '0' :: 'o' :: rest => readBased 8 (fun c => '0' ≤ c && c ≤ '7') rest
  | '0' :: 'b' :: rest => readBased 2 (fun c => c == '0' || c == '1') rest
  | '+' :: rest => readDecimal false rest
  | '-' :: rest => readDecimal true rest
  | text => readDecimal false text

/-! ### Dates -/

/-- Reads a number of two digits in a range. -/
def readTwo (lo hi : Nat) (text : List Char) : Option (Nat × List Char) :=
  match text with
  | a :: b :: rest =>
    let n := ofDigits 10 [a, b]
    if a.isDigit && b.isDigit && lo ≤ n && n ≤ hi then some (n, rest) else none
  | _ => none

/-- Reads a given character. -/
def readChar (c : Char) : List Char → Option (List Char)
  | d :: rest => if d = c then some rest else none
  | [] => none

/-- A number in two digits. -/
def twoDigits (n : Nat) : String :=
  if n < 10 then "0" ++ toString n else toString n

/-- The number of days of a month. -/
def daysOf (year month : Nat) : Nat :=
  if month = 2 then
    if year % 4 = 0 && (year % 100 ≠ 0 || year % 400 = 0) then 29 else 28
  else if [4, 6, 9, 11].contains month then 30
  else 31

/-- Whether the text begins like a date. -/
def beginsDate : List Char → Bool
  | a :: b :: c :: d :: '-' :: _ => [a, b, c, d].all Char.isDigit
  | _ => false

/-- Whether the text begins like a time of day. -/
def beginsTime (text : List Char) : Bool :=
  match readTwo 0 23 text with
  | some (_, ':' :: _) => true
  | _ => false

/-- Reads a date. -/
def readDate (text : List Char) : Option (String × List Char) := do
  let year := ofDigits 10 (text.take 4)
  let (month, rest) ← readTwo 1 12 (text.drop 5)
  let rest ← readChar '-' rest
  let (day, rest) ← readTwo 1 (daysOf year month) rest
  return (String.ofList (text.take 4) ++ "-" ++ twoDigits month ++ "-" ++ twoDigits day, rest)

/-- Reads the fraction of a second, which counts to nine places. -/
def readFraction (text : List Char) : String × List Char :=
  match text with
  | '.' :: rest =>
    let digits := rest.takeWhile Char.isDigit
    if digits.isEmpty then ("", text)
    else
      let kept := ((digits.take 9).reverse.dropWhile (· == '0')).reverse
      (if kept.isEmpty then "" else "." ++ String.ofList kept, rest.dropWhile Char.isDigit)
  | _ => ("", text)

/-- Reads a time of day. -/
def readTime (text : List Char) : Option (String × List Char) := do
  let (hour, rest) ← readTwo 0 23 text
  let (minute, rest) ← readTwo 0 59 (← readChar ':' rest)
  let (second, rest) ← readTwo 0 60 (← readChar ':' rest)
  let (fraction, rest) := readFraction rest
  return (twoDigits hour ++ ":" ++ twoDigits minute ++ ":" ++ twoDigits second ++ fraction, rest)

/-- Reads the distance of a time from universal time, if there is one. -/
def readOffset (text : List Char) : Option (String × List Char) :=
  match text with
  | c :: rest =>
    if c = 'Z' || c = 'z' then some ("Z", rest)
    else if c = '+' || c = '-' then do
      let (hour, rest) ← readTwo 0 23 rest
      let (minute, rest) ← readTwo 0 59 (← readChar ':' rest)
      let sign := if c = '-' && hour + minute ≠ 0 then "-" else "+"
      return (sign ++ twoDigits hour ++ ":" ++ twoDigits minute, rest)
    else some ("", text)
  | [] => some ("", text)

/-- Reads a date, a date and a time, or a time. -/
def readMoment (text : List Char) : Option (String × List Char) :=
  if beginsDate text then do
    let (date, rest) ← readDate text
    match rest with
    | c :: after =>
      if (c = 'T' || c = 't' || c = ' ') && beginsTime after then
        let (time, rest) ← readTime after
        let (offset, rest) ← readOffset rest
        return (date ++ "T" ++ time ++ offset, rest)
      else return (date, rest)
    | [] => return (date, rest)
  else readTime text

end Toml

end LiterateLinks
