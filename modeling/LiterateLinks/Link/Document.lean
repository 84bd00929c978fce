import LiterateLinks.Document.Node
import LiterateLinks.Link.Text

/-!
# Linking documents

All text of a page is linked, except below elements whose text is not shown as it stands: scripts,
styles, text areas, titles and templates.  A document is walked twice, first for the definitions and
then for the pastes, so that a paste sees every chunk of the document.  A text that holds markers is
replaced among its siblings by the stretches around them and the replacements; everything else stays
as it is.

The children of an element are listed anew only from the first replaced text on (`Linker.Siblings`).
Where no text is replaced the element keeps the list that it has.
-/

namespace LiterateLinks

/-- What one linking run changed. -/
structure LinkReport where
  /-- Definition markers replaced. -/
  definitions : Nat := 0
  /-- Paste markers replaced. -/
  pastes : Nat := 0
  /-- Distinct chunk names collected. -/
  chunks : Nat := 0
  /-- Text nodes replaced, over both walks. -/
  nodesChanged : Nat := 0
  deriving Repr, DecidableEq, Inhabited

namespace Linker

/-- The elements whose text is left alone. -/
def skippedElements : List String :=
  ["script", "style", "textarea", "title", "template"]

/-- The nodes of a linked text; empty stretches leave no node. -/
def nodesOf (r : LinkedText) : List Node :=
  r.segments.filterMap fun
    | .text content => if content = "" then none else some (.text content)
    | .markup replacement => some (Node.ofMarkup replacement)

/-- What a walk has done so far: the number of markers and of text nodes replaced. -/
structure Tally where
  substitutions : Nat := 0
  nodes : Nat := 0

/-- Counts one linked text. -/
def Tally.count (tally : Tally) (r : LinkedText) : Tally :=
  if r.isUnchanged then tally else ⟨tally.substitutions + r.substitutions, tally.nodes + 1⟩

/-- The children of an element while they are walked, newest first: those walked so far, and the new
list, which begins with the first child that is replaced. -/
structure Siblings where
  walked : List Node := []
  rebuilt : Option (List Node) := none

namespace Siblings

/-- Takes in the next child.  If it is replaced, the nodes in its place come after the new list, or
after the children before it if no list has begun; a child that stays comes after the new list, if
there is one. -/
def push (siblings : Siblings) (node : Node) (replacement? : Option (List Node)) : Siblings where
  walked := node :: siblings.walked
  rebuilt :=
    match replacement? with
    | some nodes => some (nodes.reverse ++ siblings.rebuilt.getD siblings.walked)
    | none => siblings.rebuilt.map (node :: ·)

/-- The children in their order: the new list, or those that were there if none has begun. -/
def children (siblings : Siblings) : List Node :=
  (siblings.rebuilt.getD siblings.walked).reverse

end Siblings

/-- The nodes in place of a text; none if it stays. -/
def replacement? (r : LinkedText) : Option (List Node) :=
  if r.isUnchanged then none else some (nodesOf r)

variable {σ : Type}

mutual

/-- Offers the text nodes at and below a node, in document order, to `edit`, which threads a state.
The answer is the node with all that is replaced below it, and what replaces the node itself. -/
def visitNode (edit : σ → String → LinkedText × σ) :
    σ → Tally → Node → (Node × Option (List Node)) × σ × Tally
  | state, tally, .text content =>
    let (r, state) := edit state content
    ((.text content, replacement? r), state, tally.count r)
  | state, tally, .element tag contents children =>
    if skippedElements.contains tag.name then
      ((.element tag contents children, none), state, tally)
    else
      let (children, state, tally) := visitNodes edit state tally {} children
      ((.element tag contents children, none), state, tally)
  | state, tally, node => ((node, none), state, tally)

/-- Walks the siblings that come after those taken in. -/
def visitNodes (edit : σ → String → LinkedText × σ) :
    σ → Tally → Siblings → List Node → List Node × σ × Tally
  | state, tally, siblings, [] => (siblings.children, state, tally)
  | state, tally, siblings, node :: nodes =>
    let ((node, replacement?), state, tally) := visitNode edit state tally node
    visitNodes edit state tally (siblings.push node replacement?) nodes

end

/-- Links the definitions of a list of siblings. -/
def walkDefinitions (linker : Linker) (nodes : List Node) : List Node × SymbolTable × Tally :=
  visitNodes linker.linkDefinitions {} {} {} nodes

/-- Links the pastes of a list of siblings and collects the events. -/
def walkPastes (linker : Linker) (symbols : SymbolTable) (nodes : List Node) :
    List Node × List Event × Tally :=
  visitNodes
    (fun log text =>
      let r := linker.linkPastes symbols text
      (r.value, log ++ r.log))
    [] {} {} nodes

/-- Links a whole document with a fresh table of names. -/
def link (linker : Linker) (document : Document) : Logged (Document × LinkReport) :=
  let (nodes, symbols, defined) := linker.walkDefinitions document.children
  let (nodes, log, pasted) := linker.walkPastes symbols nodes
  let report : LinkReport :=
    { definitions := defined.substitutions
      pastes := pasted.substitutions
      chunks := symbols.size
      nodesChanged := defined.nodes + pasted.nodes }
  ⟨(⟨nodes⟩, report),
    log ++ [.linked linker.policy.name report.definitions report.pastes report.chunks]⟩

end Linker

end LiterateLinks
