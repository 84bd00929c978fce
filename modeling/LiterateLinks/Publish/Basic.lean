import LiterateLinks.Document.Serialize
import LiterateLinks.Document.Stamp
import LiterateLinks.Html.Read
import LiterateLinks.Link.Document

/-!
# Publishing a page

To publish a page is to read it, link its references, mark it as linked and write it again.  A page
that carries the mark already is refused, unless the caller insists.
-/

namespace LiterateLinks

/-- How a page is published. -/
structure PublishOptions where
  /-- The stylesheet to refer to; an empty reference refers to none. -/
  stylesheet : String := ""
  /-- Whether to link a page that was linked before. -/
  force : Bool := false
  deriving Repr, DecidableEq, Inhabited

/-- Why a page cannot be published. -/
inductive PublishFault where
  | delimiters (fault : Delimiters.Fault)
  | alreadyProcessed
  deriving Repr, DecidableEq

/-- The fault in words. -/
def PublishFault.message : PublishFault → String
  | .delimiters fault => fault.message
  | .alreadyProcessed => "This document is already processed"

/-- A published page. -/
structure Published where
  html : String
  report : LinkReport
  deriving Repr, DecidableEq

/-- The stylesheet to refer to, if there is one. -/
def PublishOptions.stylesheet? (options : PublishOptions) : Option String :=
  if options.stylesheet = "" then none else some options.stylesheet

/-- Links a document and marks it. -/
def Linker.finish (linker : Linker) (document : Document) (options : PublishOptions) :
    Logged Published :=
  let linked := linker.link document
  let marked := linked.value.1.markProcessed options.stylesheet?
  ⟨⟨marked.serialize, linked.value.2⟩, linked.log ++ linked.value.1.markingEvents⟩

/-- Publishes the page with the given source. -/
def publish (resolution : Resolution) (options : PublishOptions) (source : String) :
    Logged (Except PublishFault Published) :=
  match Linker.ofResolution resolution with
  | .error fault => ⟨.error (.delimiters fault), []⟩
  | .ok linker =>
    let document := Document.parse source
    if document.isProcessed && !options.force then ⟨.error .alreadyProcessed, []⟩
    else
      let warning := if document.isProcessed then [.linkedBefore] else []
      let finished := linker.finish document options
      ⟨.ok finished.value, warning ++ finished.log⟩

end LiterateLinks
