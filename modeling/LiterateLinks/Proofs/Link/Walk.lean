import Mathlib.Tactic.Common
import LiterateLinks.Link.Document

/-!
# What a walk over a document does

A walk offers the shown texts of a document, one after the other, to an edit that threads a state.
This file takes the walk apart.  The loop over the children of an element begins a new list where
the first of them is replaced; what it ends with is the list in which every child is followed by
what is made of the next ones (`Linker.visitNodes_eq_walkNodes`).  `Node.shownTextsIn` lists the
texts a walk meets, in document order, and `Node.replaceTextsIn` puts nodes in the place of each of
them and changes nothing else.  When the replacement of a text does not depend on the state, a walk
is three independent things (`Linker.walkNodes_eq`): a replacement of the shown texts, a fold of the
state over them and a count.

Two replacements in a row are one: `Node.replaceTextsIn_replaceTextsIn`.
-/

namespace LiterateLinks

namespace Node

open Linker (skippedElements)

mutual

/-- The texts at and below a node that are not below a skipped element, in document order. -/
def shownTexts : Node → List String
  | .text content => [content]
  | .element tag _ children =>
    if skippedElements.contains tag.name then [] else shownTextsIn children
  | _ => []

/-- The shown texts of a list of siblings. -/
def shownTextsIn : List Node → List String
  | [] => []
  | n :: ns => shownTexts n ++ shownTextsIn ns

end

mutual

/-- The nodes that take the place of a node when every shown text is replaced by what `f` gives for
it and everything else is kept. -/
def replaceTexts (f : String → List Node) : Node → List Node
  | .text content => f content
  | .element tag contents children =>
    if skippedElements.contains tag.name then [.element tag contents children]
    else [.element tag contents (replaceTextsIn f children)]
  | node => [node]

/-- Replaces the shown texts of a list of siblings. -/
def replaceTextsIn (f : String → List Node) : List Node → List Node
  | [] => []
  | n :: ns => replaceTexts f n ++ replaceTextsIn f ns

end

/-- Siblings are replaced independently of each other. -/
lemma replaceTextsIn_append (f : String → List Node) (ms ns : List Node) :
    replaceTextsIn f (ms ++ ns) = replaceTextsIn f ms ++ replaceTextsIn f ns := by
  induction ms with
  | nil => simp [replaceTextsIn]
  | cons m ms ih => simp [replaceTextsIn, ih]

/-- The shown texts of siblings come one after the other. -/
lemma shownTextsIn_append (ms ns : List Node) :
    shownTextsIn (ms ++ ns) = shownTextsIn ms ++ shownTextsIn ns := by
  induction ms with
  | nil => simp [shownTextsIn]
  | cons m ms ih => simp [shownTextsIn, ih]

/-- Replacing the texts of a single node. -/
lemma replaceTextsIn_singleton (f : String → List Node) (n : Node) :
    replaceTextsIn f [n] = replaceTexts f n := by
  simp [replaceTextsIn]

/-- Siblings are replaced one by one. -/
lemma replaceTextsIn_eq_flatMap (f : String → List Node) (ns : List Node) :
    replaceTextsIn f ns = ns.flatMap (replaceTexts f) := by
  induction ns with
  | nil => simp [replaceTextsIn]
  | cons n ns ih => simp [replaceTextsIn, ih]

/-- The shown texts of siblings are collected one by one. -/
lemma shownTextsIn_eq_flatMap (ns : List Node) : shownTextsIn ns = ns.flatMap shownTexts := by
  induction ns with
  | nil => simp [shownTextsIn]
  | cons n ns ih => simp [shownTextsIn, ih]

/-- A shown text of siblings is shown at or below one of them. -/
lemma mem_shownTextsIn {text : String} {ns : List Node} :
    text ∈ shownTextsIn ns ↔ ∃ n ∈ ns, text ∈ shownTexts n := by
  rw [shownTextsIn_eq_flatMap, List.mem_flatMap]

mutual

/-- Two replacements in a row, at and below one node. -/
lemma replaceTextsIn_replaceTexts (f g : String → List Node) :
    ∀ n : Node, replaceTextsIn f (replaceTexts g n) =
      replaceTexts (fun content => replaceTextsIn f (g content)) n
  | .text content => by simp [replaceTexts]
  | .doctype name => by simp [replaceTexts, replaceTextsIn]
  | .comment content => by simp [replaceTexts, replaceTextsIn]
  | .element tag contents children => by
    by_cases h : tag.name ∈ skippedElements
    · simp [replaceTexts, h, replaceTextsIn_singleton]
    · simp [replaceTexts, h, replaceTextsIn_singleton, replaceTextsIn_replaceTextsIn f g children]

/-- Two replacements in a row are one: the nodes put in the place of a text have their own texts
replaced. -/
lemma replaceTextsIn_replaceTextsIn (f g : String → List Node) :
    ∀ ns : List Node, replaceTextsIn f (replaceTextsIn g ns) =
      replaceTextsIn (fun content => replaceTextsIn f (g content)) ns
  | [] => by simp [replaceTextsIn]
  | n :: ns => by
    simp only [replaceTextsIn, replaceTextsIn_append]
    rw [replaceTextsIn_replaceTexts f g n, replaceTextsIn_replaceTextsIn f g ns]

end

mutual

/-- The shown texts after a replacement are those of the replacements. -/
lemma shownTextsIn_replaceTexts (f : String → List Node) :
    ∀ n : Node, shownTextsIn (replaceTexts f n) =
      (shownTexts n).flatMap fun content => shownTextsIn (f content)
  | .text content => by simp [replaceTexts, shownTexts]
  | .doctype name => by simp [replaceTexts, shownTexts, shownTextsIn]
  | .comment content => by simp [replaceTexts, shownTexts, shownTextsIn]
  | .element tag contents children => by
    by_cases h : tag.name ∈ skippedElements
    · simp [replaceTexts, shownTexts, shownTextsIn, h]
    · simp [replaceTexts, shownTexts, shownTextsIn, h, shownTextsIn_replaceTextsIn f children]

/-- The shown texts of siblings after a replacement are those of the replacements. -/
lemma shownTextsIn_replaceTextsIn (f : String → List Node) :
    ∀ ns : List Node, shownTextsIn (replaceTextsIn f ns) =
      (shownTextsIn ns).flatMap fun content => shownTextsIn (f content)
  | [] => by simp [replaceTextsIn, shownTextsIn]
  | n :: ns => by
    simp only [replaceTextsIn, shownTextsIn, shownTextsIn_append, List.flatMap_append]
    rw [shownTextsIn_replaceTexts f n, shownTextsIn_replaceTextsIn f ns]

end

mutual

/-- Replacements that agree on the shown texts of a node give the same nodes. -/
lemma replaceTexts_congr {f g : String → List Node} :
    ∀ {n : Node}, (∀ content ∈ shownTexts n, f content = g content) →
      replaceTexts f n = replaceTexts g n
  | .text content, h => by simpa [replaceTexts] using h content (by simp [shownTexts])
  | .doctype name, _ => by simp [replaceTexts]
  | .comment content, _ => by simp [replaceTexts]
  | .element tag contents children, h => by
    by_cases hs : tag.name ∈ skippedElements
    · simp [replaceTexts, hs]
    · have hchildren : ∀ content ∈ shownTextsIn children, f content = g content := by
        simpa [shownTexts, hs] using h
      simp [replaceTexts, hs, replaceTextsIn_congr hchildren]

/-- Replacements that agree on the shown texts of siblings give the same nodes. -/
lemma replaceTextsIn_congr {f g : String → List Node} :
    ∀ {ns : List Node}, (∀ content ∈ shownTextsIn ns, f content = g content) →
      replaceTextsIn f ns = replaceTextsIn g ns
  | [], _ => by simp [replaceTextsIn]
  | n :: ns, h => by
    have hfirst : ∀ content ∈ shownTexts n, f content = g content :=
      fun content hc => h content (by simp [shownTextsIn, hc])
    have hrest : ∀ content ∈ shownTextsIn ns, f content = g content :=
      fun content hc => h content (by simp [shownTextsIn, hc])
    simp [replaceTextsIn, replaceTexts_congr hfirst, replaceTextsIn_congr hrest]

end

mutual

/-- Replacing every shown text by itself changes nothing at a node. -/
lemma replaceTexts_text : ∀ n : Node, replaceTexts (fun content => [.text content]) n = [n]
  | .text content => by simp [replaceTexts]
  | .doctype name => by simp [replaceTexts]
  | .comment content => by simp [replaceTexts]
  | .element tag contents children => by
    simp [replaceTexts, replaceTextsIn_text children]

/-- Replacing every shown text by itself changes nothing. -/
lemma replaceTextsIn_text :
    ∀ ns : List Node, replaceTextsIn (fun content => [.text content]) ns = ns
  | [] => by simp [replaceTextsIn]
  | n :: ns => by simp [replaceTextsIn, replaceTexts_text n, replaceTextsIn_text ns]

end

end Node

namespace Linker

open Node (shownTexts shownTextsIn replaceTexts replaceTextsIn)

/-! ## The loop over siblings -/

variable {σ : Type} (edit : σ → String → LinkedText × σ)

mutual

/-- A walk over one node, which is replaced by the resulting nodes. -/
def walkNode : σ → Tally → Node → List Node × σ × Tally
  | state, tally, .text content =>
    let (r, state) := edit state content
    (if r.isUnchanged then [.text content] else nodesOf r, state, tally.count r)
  | state, tally, .element tag contents children =>
    if skippedElements.contains tag.name then ([.element tag contents children], state, tally)
    else
      let (children, state, tally) := walkNodes state tally children
      ([.element tag contents children], state, tally)
  | state, tally, node => ([node], state, tally)

/-- A walk over siblings, each of which is replaced by the resulting nodes. -/
def walkNodes : σ → Tally → List Node → List Node × σ × Tally
  | state, tally, [] => ([], state, tally)
  | state, tally, node :: nodes =>
    let (first, state, tally) := walkNode state tally node
    let (rest, state, tally) := walkNodes state tally nodes
    (first ++ rest, state, tally)

end

/-- A sibling that is taken in comes after the others, or what replaces it does. -/
@[simp] lemma Siblings.children_push (siblings : Siblings) (node : Node)
    (replaced : Option (List Node)) :
    (siblings.push node replaced).children = siblings.children ++ replaced.getD [node] := by
  cases replaced with
  | some nodes => simp [push, children]
  | none =>
    -- a child that stays goes to both lists, so it is the newest of the one that counts
    cases hrebuilt : siblings.rebuilt <;> simp [push, children, hrebuilt]

mutual

/-- A node is followed by what replaces it. -/
lemma visitNode_eq_walkNode : ∀ (state : σ) (tally : Tally) (n : Node),
    walkNode edit state tally n =
      ((visitNode edit state tally n).1.2.getD [(visitNode edit state tally n).1.1],
        (visitNode edit state tally n).2)
  | state, tally, .text content => by
    by_cases h : (edit state content).1.isUnchanged = true <;>
      simp [visitNode, walkNode, replacement?, h]
  | state, tally, .doctype name => by simp [visitNode, walkNode]
  | state, tally, .comment content => by simp [visitNode, walkNode]
  | state, tally, .element tag contents children => by
    by_cases h : tag.name ∈ skippedElements
    · simp [visitNode, walkNode, h]
    · have hchildren := visitNodes_eq_append state tally {} children
      simp [visitNode, walkNode, h, hchildren, Siblings.children]

/-- The siblings taken in are followed by those that come after them. -/
lemma visitNodes_eq_append : ∀ (state : σ) (tally : Tally) (siblings : Siblings) (ns : List Node),
    visitNodes edit state tally siblings ns =
      (siblings.children ++ (walkNodes edit state tally ns).1, (walkNodes edit state tally ns).2)
  | state, tally, siblings, [] => by simp [visitNodes, walkNodes]
  | state, tally, siblings, n :: ns => by
    have hfirst := visitNode_eq_walkNode state tally n
    simp [visitNodes, walkNodes, hfirst, visitNodes_eq_append _ _ _ ns]

end

/-- The loop over the children of an element gives the nodes that replace each of them, in order. -/
lemma visitNodes_eq_walkNodes (state : σ) (tally : Tally) (ns : List Node) :
    visitNodes edit state tally {} ns = walkNodes edit state tally ns := by
  rw [visitNodes_eq_append]
  rfl

/-! ## What a walk does -/

/-- The nodes that a walk puts in the place of a text, given what the text is linked to. -/
def graft (r : String → LinkedText) (content : String) : List Node :=
  if (r content).isUnchanged then [.text content] else nodesOf (r content)

variable (r : String → LinkedText)

mutual

/-- A walk over one node, when the edit links a text in the same way in every state. -/
lemma walkNode_eq (hedit : ∀ state content, (edit state content).1 = r content) :
    ∀ (state : σ) (tally : Tally) (n : Node), walkNode edit state tally n =
      (replaceTexts (graft r) n,
        (shownTexts n).foldl (fun state content => (edit state content).2) state,
        (shownTexts n).foldl (fun tally content => tally.count (r content)) tally)
  | state, tally, .text content => by
    simp [walkNode, replaceTexts, shownTexts, graft, hedit]
  | state, tally, .doctype name => by simp [walkNode, replaceTexts, shownTexts]
  | state, tally, .comment content => by simp [walkNode, replaceTexts, shownTexts]
  | state, tally, .element tag contents children => by
    by_cases h : tag.name ∈ skippedElements
    · simp [walkNode, replaceTexts, shownTexts, h]
    · simp [walkNode, replaceTexts, shownTexts, h, walkNodes_eq hedit state tally children]

/-- A walk replaces the shown texts, folds its state over them and counts them.  The three do not
depend on each other when the edit links a text in the same way in every state. -/
lemma walkNodes_eq (hedit : ∀ state content, (edit state content).1 = r content) :
    ∀ (state : σ) (tally : Tally) (ns : List Node), walkNodes edit state tally ns =
      (replaceTextsIn (graft r) ns,
        (shownTextsIn ns).foldl (fun state content => (edit state content).2) state,
        (shownTextsIn ns).foldl (fun tally content => tally.count (r content)) tally)
  | state, tally, [] => by simp [walkNodes, replaceTextsIn, shownTextsIn]
  | state, tally, n :: ns => by
    simp [walkNodes, replaceTextsIn, shownTextsIn, walkNode_eq hedit state tally n,
      walkNodes_eq hedit _ _ ns]

end

end Linker

end LiterateLinks
