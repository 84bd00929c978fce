import LiterateLinks.Decimal.Shortest
import LiterateLinks.Ordered

/-!
# Setting values

The values that configuration is made of, before it is known what they are settings of.  Tables
merge: a value is put under its key in place of the one that is there, but a table is put entry by
entry into what is there.  Keys do not depend on case and are kept in lower case.
-/

namespace LiterateLinks

/-- A value of a setting. -/
inductive Setting where
  | null
  | flag (value : Bool)
  | integer (value : Int)
  | float (value : Float)
  | text (value : String)
  | array (elements : List Setting)
  | table (entries : List (String × Setting))
  deriving Inhabited

namespace Setting

/-- A float in words: the fewest digits that read back, with the point in its place. -/
def floatText (x : Float) : String :=
  if x.isNaN then "NaN"
  else (if Decimal.isNegative x then "-" else "") ++
    if x.isInf then "inf" else (Decimal.ofFloat x).positional false

/-- The value as text.  A value that holds other values, or nothing, is no text. -/
def toText? : Setting → Option String
  | .text s => some s
  | .flag b => some (if b then "true" else "false")
  | .integer n => some (toString n)
  | .float x => some (floatText x)
  | _ => none

/-- The value as a flag: a number is set unless it is zero, and some words stand for flags. -/
def toFlag? : Setting → Option Bool
  | .flag b => some b
  | .integer n => some (n != 0)
  | .float x => some (x != 0)
  | .text s =>
    let word := s.toLower
    if ["1", "true", "on", "yes"].contains word then some true
    else if ["0", "false", "off", "no"].contains word then some false
    else none
  | _ => none

/-- The entries of a table; any other value has none. -/
def entries : Setting → List (String × Setting)
  | .table entries => entries
  | _ => []

/-- The elements of an array; any other value has none. -/
def elements : Setting → List Setting
  | .array elements => elements
  | _ => []

mutual

/-- The value that is there after `incoming` is put in place of `present`. -/
def merge (present : Option Setting) : Setting → Setting
  | .table incoming => mergeEntries (present.getD (.table [])) incoming
  | .null => .null
  | .flag b => .flag b
  | .integer n => .integer n
  | .float x => .float x
  | .text s => .text s
  | .array elements => .array elements

/-- Puts entries into a value.  The first of them makes a table of any other value. -/
def mergeEntries (present : Setting) : List (String × Setting) → Setting
  | [] => present
  | (key, value) :: rest =>
    let entries := present.entries
    mergeEntries
      (.table (Ordered.put key.toLower (merge (entries.lookup key.toLower) value) entries)) rest

end

/-- Puts a value under a key. -/
def putKey (present : Setting) (key : String) (value : Setting) : Setting :=
  let entries := present.entries
  .table (Ordered.put key.toLower (merge (entries.lookup key.toLower) value) entries)

end Setting

end LiterateLinks
