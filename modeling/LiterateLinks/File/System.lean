import LiterateLinks.File.Tree

/-!
# File systems

What the program asks of the files around it.  The questions can be asked of any file system; on a
tree of files (`FileSystem.ofTree`) the answers are values, so that what a run leaves behind can be
reasoned about.
-/

namespace LiterateLinks

/-- The questions to a file system. -/
structure FileSystem (m : Type → Type) where
  /-- The names of the working directory below the root. -/
  workingDirectory : m (List String)
  /-- The bytes of a file. -/
  read : String → m (Except FileFault ByteArray)
  /-- Writes the bytes of a file, in place of those that it has. -/
  write : String → ByteArray → m (Except FileFault Unit)
  /-- Whether the path leads to a file. -/
  isFile : String → m Bool
  /-- Whether the path leads anywhere. -/
  isThere : String → m Bool

namespace FileSystem

variable {m : Type → Type} [Monad m]

/-- The text of a file. -/
def readText (fs : FileSystem m) (path : String) : m (Except FileFault String) := do
  match ← fs.read path with
  | .error fault => return .error fault
  | .ok bytes =>
    match String.fromUTF8? bytes with
    | some text => return .ok text
    | none => return .error .notText

/-- Writes a text to a file. -/
def writeText (fs : FileSystem m) (path text : String) : m (Except FileFault Unit) :=
  fs.write path text.toUTF8

/-- The file system whose files are a tree. -/
def ofTree (workingDirectory : List String) : FileSystem (StateM FileTree) where
  workingDirectory := return workingDirectory
  read path := return (← get).read workingDirectory path
  write path bytes := do
    match (← get).write workingDirectory path bytes with
    | .ok tree =>
      set tree
      return .ok ()
    | .error fault => return .error fault
  isFile path := do
    match (← get).find workingDirectory path with
    | .ok (.file _) => return true
    | _ => return false
  isThere path := return ((← get).find workingDirectory path).isOk

end FileSystem

end LiterateLinks
