import LiterateLinks.Document.Node
import LiterateLinks.Event

/-!
# The mark of a linked document

A linked document carries a `meta` element that names its generator, so that it is not linked twice
by accident, and may refer to a stylesheet.  Both are added at the end of the head, each followed by
a line break.  A document without a head cannot be marked, and this is told.
-/

namespace LiterateLinks

namespace Document

/-- The generator named by a linked document. -/
def generator : String := "nanolp-pub"

/-- Whether a tag names this generator. -/
def isGeneratorMeta (tag : Tag) : Bool :=
  tag.get? "name" == some "generator" && tag.get? "content" == some generator

/-- Whether the document carries the mark anywhere. -/
def isProcessed (document : Document) : Bool :=
  (Node.tagsNamedIn "meta" document.children).any isGeneratorMeta

/-- The mark. -/
def generatorMeta : Node :=
  .ofTag "meta" [("name", "generator"), ("content", generator)] []

/-- The reference to a stylesheet. -/
def stylesheetLink (href : String) : Node :=
  .ofTag "link" [("rel", "stylesheet"), ("type", "text/css"), ("href", href)] []

/-- Appends a node and a line break. -/
def appendLine (nodes : List Node) (node : Node) : List Node :=
  nodes ++ [node, .text "\n"]

/-- Whether some `link` element among or below the nodes has this reference. -/
def refersTo (nodes : List Node) (href : String) : Bool :=
  (Node.tagsNamedIn "link" nodes).any fun tag => tag.get? "href" == some href

/-- The children of the head with what is missing: the mark, unless the document is marked, and the
reference to the stylesheet, unless there is one. -/
def stampHead (marked : Bool) (stylesheet : Option String) (children : List Node) : List Node :=
  let children := if marked then children else appendLine children generatorMeta
  match stylesheet with
  | some href =>
    if refersTo children href then children else appendLine children (stylesheetLink href)
  | none => children

/-- Marks the document as linked.  A document without a head is left as it is. -/
def markProcessed (document : Document) (stylesheet : Option String) : Document :=
  let stamp := stampHead document.isProcessed stylesheet
  ⟨(Node.changeNamedIn? "head" stamp document.children).getD document.children⟩

/-- What there is to tell when the document is marked: that it has no head. -/
def markingEvents (document : Document) : List Event :=
  if (Node.tagsNamedIn "head" document.children).isEmpty then [.headMissing] else []

end Document

end LiterateLinks
