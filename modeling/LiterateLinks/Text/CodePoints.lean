/-!
# Sets of code points

A property of characters is given by the code points that have it, as a list of ranges in order.
-/

namespace LiterateLinks

namespace Text

/-- A set of code points: ranges, each given by its first and its last code point. -/
abbrev CodePoints := List (Nat × Nat)

/-- Whether the set holds the character. -/
def CodePoints.has (set : CodePoints) (c : Char) : Bool :=
  set.any fun (lo, hi) => lo ≤ c.toNat && c.toNat ≤ hi

end Text

end LiterateLinks
