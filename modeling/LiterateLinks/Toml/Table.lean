import LiterateLinks.Settings.Value

/-!
# Tables under construction

A table of a TOML document is made by a header, by a header of a table below it, or by a key with
dots.  What made it decides how it may still grow: a table with a header is not given another one,
and is not entered by dots from outside; a table that dots made is given no header.  A header in
double brackets adds a table to a list, and names that lead through a list mean its last table.
-/

namespace LiterateLinks

namespace Toml

/-- What made a table. -/
inductive Origin where
  | header
  /-- A header of a table below it. -/
  | implied
  /-- A key with dots. -/
  | dots
  deriving Repr, DecidableEq

/-- What a key stands for while a document is read. -/
inductive Item where
  | value (value : Setting)
  | table (origin : Origin) (entries : List (String × Item))
  | tables (elements : List (List (String × Item)))

/-- The entries of a table under construction. -/
abbrev Entries := List (String × Item)

mutual

/-- The finished value of an item. -/
def Item.toSetting : Item → Setting
  | .value v => v
  | .table _ entries => .table (toSettings entries)
  | .tables elements => .array (elementSettings elements)

/-- The finished entries of a table. -/
def toSettings : List (String × Item) → List (String × Setting)
  | [] => []
  | (key, item) :: rest => (key, item.toSetting) :: toSettings rest

/-- The finished tables of a list. -/
def elementSettings : List (List (String × Item)) → List Setting
  | [] => []
  | entries :: rest => .table (toSettings entries) :: elementSettings rest

end

namespace Entries

/-- Changes the table that names lead to.  Tables that are missing are made; `dots` says whether the
names are those of a key with dots. -/
def change (dots : Bool) (f : Origin → Entries → Option Entries) :
    List String → Origin → Entries → Option Entries
  | [], origin, entries => f origin entries
  | name :: names, _, entries =>
    match entries.lookup name with
    | none => do
      let origin := if dots then Origin.dots else .implied
      return Ordered.put name (.table origin (← change dots f names origin [])) entries
    | some (.value _) => none
    | some (.table origin below) =>
      if dots && origin == .header then none
      else do return Ordered.put name (.table origin (← change dots f names origin below)) entries
    | some (.tables elements) => do
      let last ← change dots f names .header (elements.getLast?.getD [])
      return Ordered.put name (.tables (elements.dropLast ++ [last])) entries

/-- Splits the last name off a key. -/
def splitLast? (names : List String) : Option (List String × String) :=
  names.getLast?.map fun last => (names.dropLast, last)

/-- Adds the table of a header. -/
def open? (root : Entries) (names : List String) : Option Entries := do
  let (path, name) ← splitLast? names
  change false (fun _ entries =>
    match entries.lookup name with
    | none => some (Ordered.put name (.table .header []) entries)
    | some (.table .implied below) => some (Ordered.put name (.table .header below) entries)
    | some _ => none) path .header root

/-- Adds the table of a header in double brackets. -/
def append? (root : Entries) (names : List String) : Option Entries := do
  let (path, name) ← splitLast? names
  change false (fun _ entries =>
    match entries.lookup name with
    | none => some (Ordered.put name (.tables [[]]) entries)
    | some (.tables elements) => some (Ordered.put name (.tables (elements ++ [[]])) entries)
    | some _ => none) path .header root

/-- Adds a value to a table.  A key with dots ends in a table that dots made. -/
def insert? (names : List String) (value : Setting) (table : Entries) : Option Entries := do
  let (path, name) ← splitLast? names
  change true (fun origin entries =>
    if (!path.isEmpty && origin != .dots) || (entries.lookup name).isSome then none
    else some (Ordered.put name (.value value) entries)) path .header table

/-- Adds a value to the table of a header. -/
def insertAt? (root : Entries) (header names : List String) (value : Setting) : Option Entries :=
  change false (fun _ table => insert? names value table) header .header root

/-- The table of pairs in braces. -/
def ofPairs? (pairs : List (List String × Setting)) : Option Entries :=
  pairs.foldlM (fun table (names, value) => insert? names value table) []

end Entries

end Toml

end LiterateLinks
