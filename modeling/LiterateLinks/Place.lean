import LiterateLinks.Text.Bytes
import LiterateLinks.Text.Pieces

/-!
# Places

A path is spelled in bytes, with slashes between its pieces, and each piece is a component of the
path or says nothing.  A path leads to a place: the names below the root that are left when the path
is read from the working directory and each `..` takes back the name before it.  Links in the file
system are not looked at.

One place is reached from another by a difference of paths.  What both have in front is left out,
every component that only the second one has is gone back by `..`, and the rest of the first one
follows.
-/

namespace LiterateLinks

namespace Place

/-- The byte between the pieces of a path. -/
def slash : UInt8 := 0x2f

/-- The pieces of a path between its slashes. -/
def pieces (path : ByteString) : List ByteString :=
  (Text.pieces slash path.bytes).map ByteString.mk

/-- The path that is spelled by pieces with slashes between them. -/
def spell (pieces : List ByteString) : ByteString :=
  ⟨[slash].intercalate (pieces.map ByteString.bytes)⟩

/-- Whether the path starts at the root. -/
def isAbsolute (path : ByteString) : Bool :=
  path.bytes.head? == some slash

/-- A component of a path. -/
inductive Component where
  /-- The root, where an absolute path starts. -/
  | rootDir
  /-- The directory itself, where a path starts with a dot. -/
  | curDir
  /-- The directory above. -/
  | parentDir
  /-- A name in the directory. -/
  | normal (name : ByteString)
  deriving Repr, DecidableEq

namespace Component

/-- The component that a piece of a path stands for.  An empty piece and a dot stand for none. -/
def ofPiece? (piece : ByteString) : Option Component :=
  if piece = "" || piece = "." then none
  else if piece = ".." then some .parentDir
  else some (.normal piece)

/-- How a component is spelled. -/
def text : Component → ByteString
  | .rootDir => "/"
  | .curDir => "."
  | .parentDir => ".."
  | .normal name => name

/-- Whether a component leads out of the directory that a path is read from. -/
def leaves : Component → Bool
  | .parentDir | .rootDir => true
  | .curDir | .normal _ => false

/-- The name that a component adds, if it adds one. -/
def name? : Component → Option ByteString
  | .normal name => some name
  | .rootDir | .curDir | .parentDir => none

end Component

/-- The component that tells where a path starts: the root, or the directory itself if this is
written down. -/
def start (path : ByteString) : List Component :=
  if isAbsolute path then [.rootDir]
  else if (pieces path).head? = some ("." : ByteString) then [.curDir]
  else []

/-- The components that the pieces of a path stand for. -/
def steps (path : ByteString) : List Component :=
  (pieces path).filterMap Component.ofPiece?

/-- The components of a path. -/
def components (path : ByteString) : List Component :=
  start path ++ steps path

/-- The path of `name` in the directory `dir`.  An absolute `name` stands for itself. -/
def join (dir name : ByteString) : ByteString :=
  if isAbsolute name || dir = "" then name
  else if dir.bytes.getLast? = some slash then dir ++ name
  else dir ++ "/" ++ name

/-- The absolute path with the given names. -/
def ofNames (names : List ByteString) : ByteString :=
  "/" ++ spell names

/-! ## Where a path leads -/

/-- Takes one more component into the names of a place, newest first.  The root drops them all, and
`..` takes the newest one back. -/
def enter (reversed : List ByteString) : Component → List ByteString
  | .rootDir => []
  | .curDir => reversed
  | .parentDir => reversed.tail
  | .normal name => name :: reversed

/-- The names below the root of a path seen from a working directory that is itself given by its
names; `none` for the empty path. -/
def resolve? (workingDirectory : List ByteString) (path : ByteString) : Option (List ByteString) :=
  if path = "" then none
  else some ((components (join (ofNames workingDirectory) path)).foldl enter []).reverse

/-! ## The difference of two paths -/

/-- The components that lead from the second list to the first; `found` are those found so far.
While there are none, a component that both lists have is left out.  A directory of the second list
is gone back by `..`, which cannot be done where that list itself goes back. -/
def differ? (found : List Component) : List Component → List Component → Option (List Component)
  | [], [] => some found
  | c :: path, [] => some (found ++ c :: path)
  | [], _ :: base => differ? (found ++ [.parentDir]) [] base
  | c :: path, d :: base =>
    if found.isEmpty && c = d then differ? found path base
    else if d = .curDir then differ? (found ++ [c]) path base
    else if d = .parentDir then none
    else some (found ++ .parentDir :: (base.map fun _ => .parentDir) ++ c :: path)

/-- The path that is put together from components. -/
def collect (parts : List Component) : ByteString :=
  parts.foldl (fun path part => join path part.text) ""

/-- The path that leads from the directory `base` to `path`.  It is `path` itself if only this one
is absolute; from an absolute directory to a path that is not absolute there is none. -/
def difference? (path base : ByteString) : Option ByteString :=
  if isAbsolute path = isAbsolute base then
    (differ? [] (components path) (components base)).map collect
  else if isAbsolute path then some path
  else none

end Place

end LiterateLinks
