import LiterateLinks.File.System
import LiterateLinks.Publish.Basic
import LiterateLinks.Publish.Stylesheet

/-!
# Publishing to files

Pages are read from files and published to files.  A page is written when it is complete, so a page
that is refused leaves its file as it was.  The default stylesheet is only written where there is
none.
-/

namespace LiterateLinks

/-- Why a page is not published to a file. -/
inductive OutputFault where
  | page (fault : PublishFault)
  | unreadable (path : String) (fault : FileFault)
  | unwritable (path : String) (fault : FileFault)
  deriving Repr, DecidableEq

/-- The fault in words. -/
def OutputFault.message : OutputFault → String
  | .page fault => fault.message
  | .unreadable path fault | .unwritable path fault =>
    "I/O error on '" ++ path ++ "': " ++ fault.message

variable {m : Type → Type} [Monad m]

/-- The source of a page. -/
def readPage (fs : FileSystem m) (path : String) : m (Except OutputFault String) := do
  match ← fs.readText path with
  | .ok source => return .ok source
  | .error fault => return .error (.unreadable path fault)

/-- Writes a text to a file. -/
def writePage (fs : FileSystem m) (path text : String) : m (Except OutputFault Unit) := do
  match ← fs.writeText path text with
  | .ok () => return .ok ()
  | .error fault => return .error (.unwritable path fault)

/-- Publishes a page to a file. -/
def publishTo (fs : FileSystem m) (path : String) (resolution : Resolution)
    (options : PublishOptions) (source : String) : m (Logged (Except OutputFault LinkReport)) := do
  let page := publish resolution options source
  match page.value with
  | .error fault => return ⟨.error (.page fault), page.log⟩
  | .ok published =>
    match ← writePage fs path published.html with
    | .error fault => return ⟨.error fault, page.log⟩
    | .ok () => return ⟨.ok published.report, page.log⟩

/-- Writes the default stylesheet into a directory, unless it is there; gives the path if it is
written. -/
def Stylesheet.writeTo (fs : FileSystem m) (dir : String) :
    m (Logged (Except OutputFault (Option String))) := do
  let path := Path.join dir Stylesheet.fileName
  if ← fs.isThere path then return ⟨.ok none, [.stylesheetKept path]⟩
  else
    match ← writePage fs path Stylesheet.text with
    | .error fault => return ⟨.error fault, []⟩
    | .ok () => return ⟨.ok (some path), []⟩

end LiterateLinks
