import LiterateLinks.Regex.Search
import LiterateLinks.Regex.Syntax

/-!
# Chunk names

A chunk that is split into fragments is published as `name.0`, `name.1`, and so on, while the
document carries one anchor for the parent `name`.  The ordinal of a fragment is a dot, an optional
minus sign and at least one decimal digit at the very end of its name.  It is found by an expression
that is tied to the end of the name but not to its start, so the search comes past everything in the
name that begins like an ordinal.
-/

namespace LiterateLinks

namespace Chunk

/-- The written expression of an ordinal. -/
def ordinalSource : List Char :=
  "\\.-?[0-9]+$".toList

/-- The expression of an ordinal, as it is read. -/
def ordinal? : Option Pattern :=
  Pattern.parse? ordinalSource

/-- The parent name of a fragment (`foo.2` gives `foo`); any other name is its own parent.  What
stands before the first match of the ordinal is the parent. -/
def stripOrdinal (name : String) : String :=
  match ordinal?.bind (·.find? name.toList) with
  | some (parent, _) => String.ofList parent
  | none => name

end Chunk

end LiterateLinks
