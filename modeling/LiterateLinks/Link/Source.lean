import LiterateLinks.Chunk.Table
import LiterateLinks.Place
import LiterateLinks.Text.Blank
import LiterateLinks.Url.Basic

/-!
# Links to source files

The locations of a command map may be paths of source files.  A page needs URLs instead, seen from
the directory that it is published in: the path of a file below that directory is made relative to
it, and a base URL, if there is one, is put in front.  URLs stay as they are.  The published
document itself is the empty URL.

The file is reached from the directory by a difference of paths (`Place.difference?`).  A difference
that leads out of the directory is refused; of any other one the names make the URL, each read
leniently, since a URL is a text and a name need not be one.
-/

namespace LiterateLinks

/-- What the URLs of source files are made for: the directory of the page, a base URL and the page
itself. -/
structure SourceUrls where
  outDir : ByteString
  base : Option String := none
  document : Option ByteString := none
  deriving Repr, DecidableEq

namespace SourceUrls

/-- Why a location has no URL. -/
inductive Fault where
  /-- A path that is needed is empty. -/
  | emptyPath
  /-- The file with these names is not below the directory of the page. -/
  | unreachable (names : List ByteString)
  deriving Repr, DecidableEq

/-- The fault in words. -/
def Fault.message : Fault → String
  | .emptyPath => "I/O error on '': cannot make an empty path absolute"
  | .unreachable names =>
    "Can not generate URL for '" ++ (Place.ofNames names).lossy ++
      "': it is outside the output directory"

/-- Whether a base URL starts with a scheme: a word before `://`. -/
def hasScheme (base : List Char) : Bool :=
  let scheme := base.takeWhile fun c => c.isAlphanum || c == '_'
  !scheme.isEmpty && (base.drop scheme.length).take 3 == "://".toList

/-- The base that a setting stands for: without blanks around it and slashes at its end, and with a
scheme.  Where nothing is left there is no base. -/
def baseOf (setting : String) : Option String :=
  let base := Text.dropEndWhile (· == '/') (Text.trim setting.toList)
  if base.isEmpty then none
  else if hasScheme base then some (String.ofList base)
  else some ("http://" ++ String.ofList base)

/-- The names of a path, or the fault of an empty one. -/
def resolve (workingDirectory : List ByteString) (path : ByteString) :
    Except Fault (List ByteString) :=
  match Place.resolve? workingDirectory path with
  | some names => .ok names
  | none => .error .emptyPath

/-- The path from a directory to a file, unless it leads out of the directory. -/
def relative? (dir names : List ByteString) : Option ByteString :=
  (Place.difference? (Place.ofNames names) (Place.ofNames dir)).filter fun path =>
    !(Place.components path).any Place.Component.leaves

/-- A path as a part of a URL: the names of its components. -/
def urlPath (path : ByteString) : String :=
  "/".intercalate ((Place.components path).filterMap fun part => part.name?.map ByteString.lossy)

/-- The URL of a location. -/
def url (sources : SourceUrls) (workingDirectory : List ByteString) (location : String) :
    Except Fault String := do
  if location.isEmpty || isUrl location then return location
  else
    let names ← resolve workingDirectory location
    let own ← sources.document.mapM (resolve workingDirectory)
    if own = some names then return ""
    else
      let dir ← resolve workingDirectory sources.outDir
      match relative? dir names with
      | none => throw (.unreachable names)
      | some path =>
        match sources.base with
        | some base => return base ++ "/" ++ urlPath path
        | none => return urlPath path

/-- The command map with a URL in place of every location. -/
def rebase (sources : SourceUrls) (workingDirectory : List ByteString) (commands : CommandMap) :
    Except Fault CommandMap :=
  commands.mapLocations (sources.url workingDirectory)

end SourceUrls

end LiterateLinks
