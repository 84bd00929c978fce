import LiterateLinks.Text.Pieces

/-!
# Paths

A path is text with `/` between its names.  Empty names and the name `.` say nothing and are
skipped, so two spellings of a path share their names.
-/

namespace LiterateLinks

namespace Path

/-- The names of a path: what stands between slashes, without empty names and `.`. -/
def names (path : String) : List String :=
  ((Text.pieces '/' path.toList).map String.ofList).filter fun name => name != "" && name != "."

/-- Whether the path starts at the root. -/
def isAbsolute (path : String) : Bool :=
  path.toList.head? == some '/'

/-- The last name of a path, if it has one and that is not `..`. -/
def fileName? (path : String) : Option String :=
  match (names path).getLast? with
  | some name => if name = ".." then none else some name
  | none => none

/-- What follows the last dot of the last name, unless that dot is the first character of the
name. -/
def extension? (path : String) : Option String := do
  let name ← fileName? path
  let reversed := name.toList.reverse
  let stem := reversed.dropWhile (· != '.')
  if stem.length ≤ 1 then none
  else some (String.ofList (reversed.takeWhile (· != '.')).reverse)

/-- The path of `name` in the directory `dir`.  An absolute `name` stands for itself. -/
def join (dir name : String) : String :=
  if isAbsolute name || dir.isEmpty then name
  else if dir.toList.getLast? = some '/' then dir ++ name
  else dir ++ "/" ++ name

/-- The pieces of a path between its slashes, without those at the end that say nothing.  The first
piece, which is empty for an absolute path, stays. -/
def trimmed (path : String) : String × List String :=
  match (Text.pieces '/' path.toList).map String.ofList with
  | [] => ("", [])
  | first :: rest =>
    (first, (rest.reverse.dropWhile fun piece => piece == "" || piece == ".").reverse)

/-- The directory that holds what the path leads to; `none` for the root and the empty path. -/
def parent? (path : String) : Option String :=
  match trimmed path with
  | ("", []) => none
  | (_, []) => some ""
  | (first, rest) =>
    match (rest.dropLast.reverse.dropWhile fun piece => piece == "" || piece == ".").reverse with
    | [] => some (if first = "" then "/" else first)
    | rest => some ("/".intercalate (first :: rest))

/-- The path with more letters at the end of its last name. -/
def withSuffix? (path suffix : String) : Option String := do
  let _ ← fileName? path
  let (first, rest) := trimmed path
  return "/".intercalate (first :: rest) ++ suffix

/-- The absolute path with the given names. -/
def ofNames (names : List String) : String :=
  "/" ++ "/".intercalate names

end Path

end LiterateLinks
