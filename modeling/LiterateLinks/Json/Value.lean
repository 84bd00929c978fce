import LiterateLinks.Decimal.Shortest
import LiterateLinks.Ordered

/-!
# JSON values

A value as it is written: the members of an object are kept in order and with repetitions.  Printing
a value leaves out all blanks; of a repeated key it shows the last value at the place of the first.
-/

namespace LiterateLinks

/-- A number: whole numbers of 64 bits are exact, all others are doubles. -/
inductive JsonNumber where
  | integer (n : Int)
  | double (x : Float)
  deriving Repr, Inhabited

/-- A JSON value. -/
inductive JsonValue where
  | null
  | bool (b : Bool)
  | number (n : JsonNumber)
  | string (s : String)
  | array (elements : List JsonValue)
  | object (members : List (String × JsonValue))
  deriving Repr, Inhabited

namespace JsonNumber

/-- A double is written positionally from `0.00001` up to but excluding `10 ^ 16`, always with a
point, and with an exponent outside this range. -/
def renderDouble (x : Float) : String :=
  let d := Decimal.ofFloat x
  let e := d.leadingExponent
  (if Decimal.isNegative x then "-" else "") ++
    if d.digits = 0 || (-5 ≤ e && e < 16) then d.positional true else d.scientific

/-- The number as it is written. -/
def render : JsonNumber → String
  | .integer n => (if n < 0 then "-" else "") ++ String.ofList (Nat.toDigits 10 n.natAbs)
  | .double x => renderDouble x

end JsonNumber

namespace JsonValue

/-- A hexadecimal digit in lower case. -/
def hexDigit (n : Nat) : Char :=
  (Nat.digitChar n)

/-- A character as it is written in a string. -/
def escapeChar (c : Char) : List Char :=
  if c = '"' then ['\\', '"']
  else if c = '\\' then ['\\', '\\']
  else if c = '\x08' then ['\\', 'b']
  else if c = '\x0c' then ['\\', 'f']
  else if c = '\n' then ['\\', 'n']
  else if c = '\r' then ['\\', 'r']
  else if c = '\t' then ['\\', 't']
  else if c.toNat < 0x20 then
    ['\\', 'u', '0', '0', hexDigit (c.toNat / 16), hexDigit (c.toNat % 16)]
  else [c]

/-- A string as it is written. -/
def renderString (s : String) : String :=
  "\"" ++ String.ofList (s.toList.flatMap escapeChar) ++ "\""

mutual

/-- The value without blanks. -/
def render : JsonValue → String
  | .null => "null"
  | .bool b => if b then "true" else "false"
  | .number n => n.render
  | .string s => renderString s
  | .array elements => "[" ++ ",".intercalate (renderAll elements) ++ "]"
  | .object members =>
    "\x7b" ++
      ",".intercalate ((Ordered.ofList (renderMembers members)).map fun (key, value) =>
        renderString key ++ ":" ++ value) ++ "\x7d"

/-- The texts of a list of values. -/
def renderAll : List JsonValue → List String
  | [] => []
  | v :: vs => v.render :: renderAll vs

/-- The members of an object with the texts of their values. -/
def renderMembers : List (String × JsonValue) → List (String × String)
  | [] => []
  | (key, v) :: rest => (key, v.render) :: renderMembers rest

end

end JsonValue

end LiterateLinks
