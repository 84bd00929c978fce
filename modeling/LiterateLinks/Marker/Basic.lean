import LiterateLinks.Glob
import LiterateLinks.Regex.Search

/-!
# Markers

A marker is a stretch of text between two delimiters, `<<` and `>>` unless others are chosen.  A
definition marker holds a chunk name without `=`; a paste marker starts with `=` and holds a name or
a wildcard pattern that does not end its line.  Either may end in an annotation, which runs from a
comma, comma included, to the right delimiter.

The two shapes are given by regular expressions over the chosen delimiters, with the name in group 1
and the annotation in group 2.
-/

namespace LiterateLinks

/-- The texts that bound every marker. -/
structure Delimiters where
  left : String := "<<"
  right : String := ">>"
  deriving Repr, DecidableEq, Inhabited

namespace Delimiters

/-- What is wrong with a pair of delimiters. -/
inductive Fault where
  | emptyLeft
  | emptyRight
  /-- The expressions built from the delimiters cannot be read back. -/
  | unreadable
  deriving Repr, DecidableEq

/-- The fault in words. -/
def Fault.message : Fault → String
  | .emptyLeft => "The left delimiter is empty"
  | .emptyRight => "The right delimiter is empty"
  | .unreadable => "Invalid marker delimiters: the marker expression cannot be read"

/-- The written expression of definition markers. -/
def definitionSource (d : Delimiters) : String :=
  String.ofList (Regex.quote d.left.toList) ++ "([^=]+?)(,.*?)?" ++
    String.ofList (Regex.quote d.right.toList)

/-- The written expression of paste markers. -/
def pasteSource (d : Delimiters) : String :=
  String.ofList (Regex.quote d.left.toList) ++ "=(.+?)(,.*?)?" ++
    String.ofList (Regex.quote d.right.toList)

end Delimiters

/-- The expressions of both marker shapes for one pair of delimiters. -/
structure Markers where
  definition : Regex
  paste : Regex
  deriving Repr, DecidableEq

namespace Markers

/-- Builds the expressions.  The left delimiter is checked before the right one. -/
def ofDelimiters (d : Delimiters) : Except Delimiters.Fault Markers :=
  if d.left.isEmpty then .error .emptyLeft
  else if d.right.isEmpty then .error .emptyRight
  else
    match Pattern.parse? d.definitionSource.toList, Pattern.parse? d.pasteSource.toList with
    | some definition, some paste => .ok ⟨definition.body, paste.body⟩
    | _, _ => .error .unreadable

end Markers

/-- What stands between the delimiters of a marker: a name, or the text of a paste, and an optional
annotation. -/
structure MarkerText where
  name : String
  annotation : Option String
  deriving Repr, DecidableEq

namespace MarkerText

/-- Reads the two groups of a marker match. -/
def ofMatch (m : Match) : MarkerText :=
  ⟨String.ofList ((m.group? 1).getD []), (m.group? 2).map String.ofList⟩

/-- The text as it is written, annotation included. -/
def written (t : MarkerText) : String :=
  t.name ++ t.annotation.getD ""

/-- The visible text of a definition, `(name,note)`. -/
def definitionLabel (t : MarkerText) : String :=
  "(" ++ t.written ++ ")"

/-- The visible text of a paste, `=name,note`. -/
def pasteLabel (t : MarkerText) : String :=
  "=" ++ t.written

/-- Whether a paste of this text lists every chunk that fits a pattern. -/
def isWildcard (t : MarkerText) : Bool :=
  Glob.isWildcard t.name

end MarkerText

end LiterateLinks
