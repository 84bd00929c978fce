import LiterateLinks.Settings.Value

/-!
# Keys of settings

A key is a name, followed by names after dots and numbers in brackets.  It says where in a table a
value is to be put, and what is missing on the way is made: a table for a name, an array for a
number.
-/

namespace LiterateLinks

/-- A step from a value into it. -/
inductive KeyStep where
  | name (name : String)
  /-- A number below zero counts from the end. -/
  | index (number : Int)
  deriving Repr, DecidableEq

/-- A key: a name of the outermost table and the steps from there. -/
structure SettingKey where
  head : String
  steps : List KeyStep
  deriving Repr, DecidableEq

namespace SettingKey

/-- Characters of names in keys. -/
def isNameChar (c : Char) : Bool :=
  c.isAlphanum || c == '_' || c == '-' || c == ' '

/-- The name at the start of a text, and the rest. -/
def takeName? (text : List Char) : Option (String × List Char) :=
  let name := text.takeWhile isNameChar
  if name.isEmpty then none else some (String.ofList name, text.dropWhile isNameChar)

/-- The number in brackets at the start of a text that is after the opening bracket, and the
rest. -/
def takeIndex? (text : List Char) : Option (Int × List Char) :=
  let isBlank (c : Char) : Bool := c == ' ' || c == '\t'
  let text := text.dropWhile isBlank
  let negative := text.head? == some '-'
  let text := if negative then text.tail else text
  let digits := text.takeWhile Char.isDigit
  match digits, (text.dropWhile Char.isDigit).dropWhile isBlank with
  | _ :: _, ']' :: rest =>
    let n := digits.foldl (fun n c => n * 10 + (c.toNat - '0'.toNat)) 0
    let number : Int := if negative then -(n : Int) else n
    if -0x8000000000000000 ≤ number && number < 0x8000000000000000 then some (number, rest)
    else none
  | _, _ => none

/-- The steps that a text consists of.  Every step reads a character, so the length of the text is
fuel enough. -/
def steps? : Nat → List Char → Option (List KeyStep)
  | _, [] => some []
  | 0, _ :: _ => none
  | fuel + 1, c :: cs =>
    if c = '.' then
      match takeName? cs with
      | some (name, rest) => (steps? fuel rest).map (KeyStep.name name :: ·)
      | none => none
    else if c = '[' then
      match takeIndex? cs with
      | some (number, rest) => (steps? fuel rest).map (KeyStep.index number :: ·)
      | none => none
    else none

/-- Reads a key. -/
def parse? (text : String) : Option SettingKey := do
  let (head, rest) ← takeName? text.toList
  return ⟨head, ← steps? rest.length rest⟩

/-- The array with an element at an index, and that index counted from the start.  Elements that are
missing are made, at the end or, for an index from the end, at the start. -/
def reach (elements : List Setting) (number : Int) : List Setting × Nat :=
  if 0 ≤ number then
    (elements ++ List.replicate (number.toNat + 1 - elements.length) .null, number.toNat)
  else
    let missing := number.natAbs - elements.length
    (List.replicate missing .null ++ elements, elements.length - number.natAbs)

/-- Puts a value at the end of a path of steps. -/
def place (value : Setting) : List KeyStep → Setting → Setting
  | [], _ => value
  | [.name name], present => present.putKey name value
  | .name name :: steps, present =>
    let entries := present.entries
    let below := (entries.lookup name.toLower).getD .null
    .table (Ordered.put name.toLower (place value steps below) entries)
  | .index number :: steps, present =>
    let (elements, spot) := reach present.elements number
    .array (elements.set spot (place value steps ((elements[spot]?).getD .null)))

/-- Puts a value under a key of the outermost table. -/
def put (key : SettingKey) (value present : Setting) : Setting :=
  place value (.name key.head :: key.steps) present

end SettingKey

end LiterateLinks
