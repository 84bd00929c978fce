/-!
# Pieces of a text

A separator cuts a text into pieces: one more than there are separators, and empty ones between two
separators that meet.  The text may be one of characters or one of bytes.
-/

namespace LiterateLinks

namespace Text

/-- The pieces of a text between the letters equal to `separator`. -/
def pieces {α : Type} [DecidableEq α] (separator : α) : List α → List (List α)
  | [] => [[]]
  | c :: cs =>
    if c = separator then [] :: pieces separator cs
    else
      match pieces separator cs with
      | [] => [[c]]
      | piece :: rest => (c :: piece) :: rest

end Text

end LiterateLinks
