/-!
# Tables of chunk names

Two tables know the chunks of a run.  A `SymbolTable` collects the names defined in one document,
each at the place of its first definition.  A `CommandMap` gives every chunk of a project a source
location; a name that is inserted again keeps its place and takes the new location.  Both are read
in the order in which their names were first inserted, because that is the order in which wildcard
pastes list chunks.

Neither table is searched.  A symbol table has the set of its names at its side, which tells whether
a name is new, and a command map has an index, which knows the position of every name.
-/

namespace LiterateLinks

/-- The distinct names defined in a document, in order of first definition.  The names stand once
more in a set, whose order means nothing. -/
structure SymbolTable where
  names : List String := []
  known : List String := []
  deriving Repr, DecidableEq, Inhabited

namespace SymbolTable

/-- Whether the name is not in the table yet. -/
def isNew (table : SymbolTable) (name : String) : Bool :=
  !table.known.contains name

/-- Records a definition; a known name changes nothing. -/
def insert (table : SymbolTable) (name : String) : SymbolTable :=
  if table.isNew name then ⟨table.names ++ [name], name :: table.known⟩ else table

/-- The number of distinct names. -/
def size (table : SymbolTable) : Nat :=
  table.names.length

end SymbolTable

/-- Source locations of chunks by name, with the position of every name. -/
structure CommandMap where
  entries : List (String × String) := []
  index : List (String × Nat) := []
  deriving Repr, DecidableEq, Inhabited

namespace CommandMap

/-- Inserts or replaces a location.  A name of the index is replaced at its position, any other name
takes the position after the last. -/
def insert (map : CommandMap) (name location : String) : CommandMap :=
  match map.index.lookup name with
  | some i => { map with entries := map.entries.modify i fun entry => (entry.1, location) }
  | none =>
    { entries := map.entries ++ [(name, location)]
      index := (name, map.entries.length) :: map.index }

/-- The location of a chunk, at the position that the index gives. -/
def get? (map : CommandMap) (name : String) : Option String :=
  match map.index.lookup name with
  | some i => map.entries[i]?.map (·.2)
  | none => none

/-- The chunk names in table order. -/
def names (map : CommandMap) : List String :=
  map.entries.map (·.1)

/-- The number of chunks. -/
def size (map : CommandMap) : Nat :=
  map.entries.length

/-- The map of a list of pairs, inserted from left to right. -/
def ofList (pairs : List (String × String)) : CommandMap :=
  pairs.foldl (fun map pair => map.insert pair.1 pair.2) {}

/-- Replaces every location by what `f` gives for it, in table order; the first failure is the
answer. -/
def mapLocations {ε : Type} (map : CommandMap) (f : String → Except ε String) :
    Except ε CommandMap := do
  let entries ← map.entries.mapM fun (name, location) => return (name, ← f location)
  return ofList entries

end CommandMap

end LiterateLinks
