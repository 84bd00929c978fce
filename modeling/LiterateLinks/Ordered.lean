/-!
# Ordered tables

An association list in which a key that is put again keeps its first place and takes the last value.
-/

namespace LiterateLinks

namespace Ordered

variable {α : Type}

/-- Puts a value under a key: in place of the old one, or at the end. -/
def put (key : String) (value : α) : List (String × α) → List (String × α)
  | [] => [(key, value)]
  | (k, v) :: rest => if k = key then (k, value) :: rest else (k, v) :: put key value rest

/-- The table of a list of pairs, put from left to right. -/
def ofList (pairs : List (String × α)) : List (String × α) :=
  pairs.foldl (fun table pair => put pair.1 pair.2 table) []

end Ordered

end LiterateLinks
