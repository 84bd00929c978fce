import LiterateLinks.Chunk.Name
import LiterateLinks.Chunk.Table
import LiterateLinks.Event
import LiterateLinks.Marker.Basic
import LiterateLinks.Markup.Basic
import LiterateLinks.Path

/-!
# Where pastes lead

A paste is resolved under one of two policies.  In-page, it leads to the anchor of that name in the
same document, whether or not the document defines the chunk.  Mapped, the command map gives the
location of the chunk: an empty location is the document itself, a web page is linked at the anchor
of the chunk, any other file as a whole; a chunk the map does not know is reported and taken to be
in the document.

A wildcard paste becomes a list of links to all known chunks that fit its pattern, each link leading
to the parent of the fragment it names.
-/

namespace LiterateLinks

/-- Where pastes look for the chunks they name. -/
inductive Policy where
  /-- Among the chunks defined in the same document. -/
  | inPage
  /-- Among the chunks of a command map. -/
  | mapped (commands : CommandMap)
  deriving Repr, DecidableEq, Inhabited

namespace Policy

/-- Whether the names of definitions have to be collected. -/
def collects : Policy → Bool
  | .inPage => true
  | .mapped _ => false

/-- The name of the policy. -/
def name : Policy → String
  | .inPage => "in-page"
  | .mapped _ => "mapped"

end Policy

/-- The place a link leads to. -/
inductive Target where
  /-- An anchor of the same document. -/
  | anchor (name : String)
  /-- Another file, at an anchor or as a whole. -/
  | external (file : String) (anchor : Option String)
  deriving Repr, DecidableEq

/-- The reference that leads to the target. -/
def Target.href : Target → String
  | .anchor name => "#" ++ name
  | .external file (some name) => file ++ "#" ++ name
  | .external file none => file

/-- The file extensions of web pages. -/
def pageExtensions : List String :=
  ["htm", "html", "shtml"]

/-- Whether a location is a web page by its extension, in any case. -/
def isPage (location : String) : Bool :=
  match Path.extension? location with
  | some extension => pageExtensions.contains (String.ofList (extension.toList.map Char.toLower))
  | none => false

namespace Policy

/-- The target of a chunk, at the given anchor if it is a place inside a document. -/
def locate (policy : Policy) (name anchor : String) : Logged Target :=
  match policy with
  | .inPage => pure (.anchor anchor)
  | .mapped commands =>
    match commands.get? name with
    | none => ⟨.anchor anchor, [.missingChunk name]⟩
    | some file =>
      if file = "" then pure (.anchor anchor)
      else if isPage file then pure (.external file (some anchor))
      else pure (.external file none)

/-- The target of an exact paste. -/
def target (policy : Policy) (name : String) : Logged Target :=
  policy.locate name name

/-- The names that wildcards choose from. -/
def knownNames (policy : Policy) (symbols : SymbolTable) : List String :=
  match policy with
  | .inPage => symbols.names
  | .mapped commands => commands.names

/-- The known names that fit a pattern, each with the target of its parent.  A pattern that is no
valid expression fits nothing and is reported. -/
def fitting (policy : Policy) (symbols : SymbolTable) (pattern : String) :
    Logged (List (String × Target)) :=
  match Glob.compile? pattern with
  | none => ⟨[], [.unusablePattern pattern]⟩
  | some expression =>
    ((policy.knownNames symbols).filter fun name => expression.isMatch name.toList).mapM
      fun name => do return (name, ← policy.locate name (Chunk.stripOrdinal name))

/-- A label with a list of links that shows when it is pointed at. -/
def popup (label : String) (links : List Markup) : Markup :=
  .element "span" [("class", "popup")]
    [.text label,
      .element "div" [] (.element "span" [("id", "caption")] [.text "Matched:"] :: links)]

/-- The markup that replaces a paste. -/
def resolve (policy : Policy) (symbols : SymbolTable) (paste : MarkerText) : Logged Markup :=
  if paste.isWildcard then do
    let found ← policy.fitting symbols paste.name
    return popup paste.pasteLabel (found.map fun (name, target) => Markup.link target.href name)
  else do
    return Markup.link (← policy.target paste.name).href paste.pasteLabel

end Policy

end LiterateLinks
