import LiterateLinks.Ordered
import LiterateLinks.Path

/-!
# Trees of files

A file system as a value: directories with named entries, and files with their bytes.  A path is
followed name by name from the root or from the working directory.  Every name but the last must be
that of a directory, also if it is left again by `..`; a slash or a dot after a name asks for a
directory too.
-/

namespace LiterateLinks

/-- Why a file cannot be read or written. -/
inductive FileFault where
  | notFound
  | isDirectory
  | notDirectory
  /-- The bytes of the file are no text. -/
  | notText
  /-- Any other reason, in words. -/
  | other (reason : String)
  deriving Repr, DecidableEq

/-- The fault in words. -/
def FileFault.message : FileFault → String
  | .notFound => "No such file or directory (os error 2)"
  | .isDirectory => "Is a directory (os error 21)"
  | .notDirectory => "Not a directory (os error 20)"
  | .notText => "stream did not contain valid UTF-8"
  | .other reason => reason

/-- A file or a directory. -/
inductive FileTree where
  | file (bytes : ByteArray)
  | directory (entries : List (String × FileTree))

namespace FileTree

/-- The empty directory. -/
def empty : FileTree := .directory []

/-- The entry of a directory with a name. -/
def entry? (tree : FileTree) (name : String) : Option FileTree :=
  match tree with
  | .file _ => none
  | .directory entries => entries.lookup name

/-- What lies below a tree under a list of names. -/
def get? : FileTree → List String → Option FileTree
  | tree, [] => some tree
  | tree, name :: names =>
    match tree.entry? name with
    | some below => below.get? names
    | none => none

/-- Puts a tree under a list of names, making directories where there are none.  A file on the way
is replaced. -/
def put (tree : FileTree) : List String → FileTree → FileTree
  | [], new => new
  | name :: names, new =>
    match tree with
    | .file _ => .directory [(name, put empty names new)]
    | .directory entries =>
      .directory (Ordered.put name (put ((entries.lookup name).getD empty) names new) entries)

/-- All files below a tree with their names, in the order of the entries. -/
def files : FileTree → List (List String × ByteArray)
  | .file bytes => [([], bytes)]
  | .directory entries => filesIn entries
where
  /-- The files below the entries of a directory. -/
  filesIn : List (String × FileTree) → List (List String × ByteArray)
    | [] => []
    | (name, tree) :: rest =>
      (files tree).map (fun (names, bytes) => (name :: names, bytes)) ++ filesIn rest

/-- Follows the pieces of a path from a place that is given by its names.  Whether the last name
exists is not asked. -/
def follow (tree : FileTree) : List String → List String → Except FileFault (List String)
  | place, [] => .ok place
  | place, piece :: rest =>
    match tree.get? place with
    | none => .error .notFound
    | some (.file _) => .error .notDirectory
    | some (.directory _) =>
      if piece = "" || piece = "." then tree.follow place rest
      else if piece = ".." then tree.follow place.dropLast rest
      else tree.follow (place ++ [piece]) rest

/-- The place where a path starts. -/
def start (workingDirectory : List String) (path : String) : List String :=
  if Path.isAbsolute path then [] else workingDirectory

/-- The pieces of a path between its slashes. -/
def pieces (path : String) : List String :=
  (Text.pieces '/' path.toList).map String.ofList

/-- What a path leads to. -/
def find (tree : FileTree) (workingDirectory : List String) (path : String) :
    Except FileFault FileTree :=
  if path.isEmpty then .error .notFound
  else
    match tree.follow (start workingDirectory path) (pieces path) with
    | .error fault => .error fault
    | .ok place =>
      match tree.get? place with
      | some found => .ok found
      | none => .error .notFound

/-- The bytes of the file that a path leads to. -/
def read (tree : FileTree) (workingDirectory : List String) (path : String) :
    Except FileFault ByteArray :=
  match tree.find workingDirectory path with
  | .error fault => .error fault
  | .ok (.file bytes) => .ok bytes
  | .ok (.directory _) => .error .isDirectory

/-- The place of a file that is to be written.  Its directory must exist, and nothing but a file may
be in its place.  A path that ends in a slash or in dots can only mean a directory. -/
def target (tree : FileTree) (workingDirectory : List String) (path : String) :
    Except FileFault (List String) := do
  if path.isEmpty then throw .notFound
  let parts := pieces path
  let named := (parts.reverse.dropWhile (· == "")).reverse
  match named.getLast? with
  | none => throw .isDirectory
  | some name =>
    let directory ← tree.follow (start workingDirectory path) (named.dropLast ++ [""])
    if named.length < parts.length || name = "." || name = ".." then throw .isDirectory
    else
      let place := directory ++ [name]
      match tree.get? place with
      | some (.directory _) => throw .isDirectory
      | _ => return place

/-- The tree after a file is written. -/
def write (tree : FileTree) (workingDirectory : List String) (path : String) (bytes : ByteArray) :
    Except FileFault FileTree := do
  return tree.put (← tree.target workingDirectory path) (.file bytes)

end FileTree

end LiterateLinks
