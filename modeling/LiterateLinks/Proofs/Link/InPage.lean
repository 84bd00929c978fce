import Mathlib.Data.List.Basic
import Mathlib.Data.List.Induction
import Mathlib.Tactic.Common
import LiterateLinks.Proofs.Document.Stamp
import LiterateLinks.Proofs.Link.OneShot
import LiterateLinks.Proofs.Link.Settled
import LiterateLinks.Proofs.Ordered

/-!
# Pastes within a page

Under the in-page policy a paste leads to the definitions of its own document.  This file describes
the references of a linked document: an exact paste becomes a link to the anchor of its name, a
wildcard paste a popup that lists the names it fits.  Where a paste stands does not matter.  Every
popup chooses from the same list, the names defined in the whole document, each once, in the order
of their first definitions (`ListsOnce`), and every one of these names has an anchor in the linked
document.

References are observed in the nodes that take the place of a text, as the outermost elements that
are links or popups (`Node.outermostIn`).  The table that the walk over the definitions fills and
the second walk over the nodes of the first one are known from `Linker.linkedOnce`.
-/

namespace LiterateLinks

/-! ## References in a tree -/

/-- Whether the element is a link or a popup. -/
def Tag.isReference (tag : Tag) : Bool :=
  (tag.get? "href").isSome || tag.get? "class" == some "popup"

namespace Node

mutual

/-- The outermost elements, at or below a node, whose tag satisfies the predicate, in document
order. -/
def outermost (p : Tag → Bool) : Node → List Node
  | .element tag contents children =>
    if p tag then [.element tag contents children] else outermostIn p children
  | _ => []

/-- The outermost elements, at or below the nodes of a list, whose tag satisfies the predicate. -/
def outermostIn (p : Tag → Bool) : List Node → List Node
  | [] => []
  | n :: ns => outermost p n ++ outermostIn p ns

end

/-- The outermost elements of siblings are collected one by one. -/
lemma outermostIn_eq_flatMap (p : Tag → Bool) (ns : List Node) :
    outermostIn p ns = ns.flatMap (outermost p) := by
  induction ns with
  | nil => simp [outermostIn]
  | cons n ns ih => simp [outermostIn, ih]

mutual

/-- The tags of the nodes that take the place of a shown text are tags of the new tree, at and below
one node. -/
lemma mem_tagsNamedIn_replaceTexts {name : String} {f : String → List Node} {text : String}
    {tag : Tag} (htag : tag ∈ tagsNamedIn name (f text)) :
    ∀ n : Node, text ∈ shownTexts n → tag ∈ tagsNamedIn name (replaceTexts f n)
  | .text content, h => by
    obtain rfl : text = content := by simpa [shownTexts] using h
    simpa [replaceTexts] using htag
  | .doctype label, h => by simp [shownTexts] at h
  | .comment content, h => by simp [shownTexts] at h
  | .element tag' contents children, h => by
    by_cases hskip : tag'.name ∈ Linker.skippedElements
    · simp [shownTexts, hskip] at h
    · have hchildren : text ∈ shownTextsIn children := by simpa [shownTexts, hskip] using h
      have hmem := mem_tagsNamedIn_replaceTextsIn htag children hchildren
      have hreplace : replaceTexts f (.element tag' contents children) =
          [.element tag' contents (replaceTextsIn f children)] := by
        simp [replaceTexts, hskip]
      rw [hreplace, tagsNamedIn, tagsNamed]
      split <;> simp [hmem]

/-- The tags of the nodes that take the place of a shown text are tags of the new tree. -/
lemma mem_tagsNamedIn_replaceTextsIn {name : String} {f : String → List Node} {text : String}
    {tag : Tag} (htag : tag ∈ tagsNamedIn name (f text)) :
    ∀ ns : List Node, text ∈ shownTextsIn ns → tag ∈ tagsNamedIn name (replaceTextsIn f ns)
  | [], h => by simp [shownTextsIn] at h
  | n :: ns, h => by
    rw [shownTextsIn, List.mem_append] at h
    rw [replaceTextsIn, tagsNamedIn_append, List.mem_append]
    rcases h with hfirst | hrest
    · exact .inl (mem_tagsNamedIn_replaceTexts htag n hfirst)
    · exact .inr (mem_tagsNamedIn_replaceTextsIn htag ns hrest)

end

end Node

/-! ## The references of a linked text -/

/-- Whether a pattern is a valid expression and matches a name. -/
def Glob.selects (pattern name : String) : Bool :=
  (compile? pattern).any fun expression => expression.isMatch name.toList

namespace Linker

open Node (shownTexts shownTextsIn replaceTexts replaceTextsIn outermost outermostIn tagsNamed
  tagsNamedIn)

/-- The pastes of a text, in order. -/
def pastesIn (linker : Linker) (text : String) : List MarkerText :=
  markerTexts (linker.markers.paste.scan text.toList)

/-- The pastes that linking meets in a text, in order: those between its definitions and those in
the labels of its definitions. -/
def pastesMet (linker : Linker) (text : String) : List MarkerText :=
  (shownTextsIn ((linker.linkDefinitions {} text).1.segments.map Segment.toNode)).flatMap
    linker.pastesIn

/-- The reference that replaces a paste in a page that defines the names: a popup that lists those
of them that fit, in their order, or a link to the anchor of the pasted name. -/
def reference (names : List String) (paste : MarkerText) : Markup :=
  if paste.isWildcard then
    Policy.popup paste.pasteLabel
      ((names.filter (Glob.selects paste.name)).map fun name =>
        Markup.link ("#" ++ Chunk.stripOrdinal name) name)
  else Markup.link ("#" ++ paste.name) paste.pasteLabel

/-- Under the in-page policy a paste is resolved to its reference. -/
lemma value_resolve_inPage (symbols : SymbolTable) (paste : MarkerText) :
    (Policy.inPage.resolve symbols paste).value = reference symbols.names paste := by
  unfold Policy.resolve reference
  split
  · unfold Policy.fitting Glob.selects
    cases Glob.compile? paste.name with
    | none => simp
    | some expression =>
      simp [Policy.knownNames, Policy.locate, Target.href, Function.comp_def]
  · simp [Policy.target, Policy.locate, Target.href]

/-- The replacement of a paste is a link or a popup. -/
lemma outermost_resolve (policy : Policy) (symbols : SymbolTable) (paste : MarkerText) :
    outermost Tag.isReference (.ofMarkup (policy.resolve symbols paste).value) =
      [.ofMarkup (policy.resolve symbols paste).value] := by
  unfold Policy.resolve
  split
  · simp [Policy.popup, Node.ofMarkup, Node.ofTag, outermost, Tag.isReference, Tag.get?]
  · simp [Markup.link, Node.ofMarkup, Node.ofTag, outermost, Tag.isReference, Tag.get?]

/-- The references in what takes the place of a text without definitions. -/
lemma outermostIn_pasteNodes (linker : Linker) (symbols : SymbolTable) (text : String) :
    outermostIn Tag.isReference (linker.pasteNodes symbols text) =
      (linker.pastesIn text).map fun paste =>
        .ofMarkup (linker.policy.resolve symbols paste).value := by
  rw [pasteNodes, linkPastes_value, Node.outermostIn_eq_flatMap, List.flatMap_map,
    LinkedText.flatMap_segments_ofScan (by simp [markerTexts]) fun _ => rfl]
  simp [Segment.toNode, List.flatMap_map, outermost_resolve, pastesIn, ← List.map_eq_flatMap]

/-- The references in what takes the place of a text: one for every paste that is met. -/
lemma outermostIn_linkedNodes (linker : Linker) (symbols : SymbolTable) (text : String) :
    outermostIn Tag.isReference (linker.linkedNodes symbols text) =
      (linker.pastesMet text).map fun paste =>
        .ofMarkup (linker.policy.resolve symbols paste).value := by
  have hsegment : ∀ segment ∈ (linker.linkDefinitions {} text).1.segments,
      outermostIn Tag.isReference (linker.linkSegment symbols segment) =
        ((shownTexts segment.toNode).flatMap linker.pastesIn).map fun paste =>
          .ofMarkup (linker.policy.resolve symbols paste).value := by
    intro segment hsegment
    rw [linkDefinitions_fst] at hsegment
    rcases LinkedText.mem_segments_ofScan hsegment with ⟨s, -, rfl⟩ | ⟨replacement, hmem, rfl⟩
    · rw [linkSegment, outermostIn_pasteNodes]
      simp [Segment.toNode, shownTexts]
    · -- neither the anchor nor the span around its label is a reference
      obtain ⟨t, -, rfl⟩ := List.mem_map.1 hmem
      have hlabel := outermostIn_pasteNodes linker symbols t.definitionLabel
      rw [linkSegment_markup_anchor, Segment.toNode, shownTexts_anchor, List.flatMap_singleton,
        ← hlabel]
      simp [Node.ofTag, outermostIn, outermost, Tag.isReference, Tag.get?]
  have hsame : (linker.linkDefinitions symbols text).1 = (linker.linkDefinitions {} text).1 := rfl
  rw [linkedNodes, hsame, Node.outermostIn_eq_flatMap, List.flatMap_assoc, pastesMet,
    Node.shownTextsIn_eq_flatMap, List.flatMap_map, List.flatMap_assoc, List.map_flatMap]
  refine List.flatMap_congr fun segment hmem => ?_
  rw [← Node.outermostIn_eq_flatMap]
  exact hsegment segment hmem

/-- What takes the place of a text has an anchor for every name that the text defines. -/
lemma exists_anchor_linkedNodes (linker : Linker) (symbols : SymbolTable) {text name : String}
    (h : name ∈ linker.namesIn text) :
    ∃ tag ∈ tagsNamedIn "a" (linker.linkedNodes symbols text), tag.get? "name" = some name := by
  obtain ⟨t, ht, rfl⟩ := List.mem_map.1 h
  have hsegment : .markup (anchor t) ∈ (linker.linkDefinitions symbols text).1.segments := by
    rw [linkDefinitions_fst]
    exact LinkedText.markup_mem_segments_ofScan (by simp [definitionsIn, markerTexts])
      (List.mem_map_of_mem ht)
  refine ⟨{ name := "a", attributes := [{ name := "name", value := t.name }] }, ?_,
    by simp [Tag.get?]⟩
  rw [linkedNodes, Node.tagsNamedIn_eq_flatMap, List.flatMap_assoc, List.mem_flatMap]
  refine ⟨_, hsegment, ?_⟩
  rw [linkSegment_markup_anchor]
  simp [Node.ofTag, tagsNamed]

end Linker

/-- Under the in-page policy and with non-empty delimiters, every paste that linking meets in a
document is replaced by the reference to the names that the whole document defines, each listed once
in the order of their first definitions, and each of these names has an anchor in the linked
document. -/
theorem link_inPage_references (d : Delimiters) (hleft : d.left ≠ "") (hright : d.right ≠ "") :
    ∃ linker, Linker.ofResolution ⟨d, .inPage⟩ = .ok linker ∧ ∀ document : Document,
      ∃ (names : List String) (graft : String → List Node),
        ListsOnce ((Node.shownTextsIn document.children).flatMap linker.namesIn) names ∧
        (linker.link document).value.1 = ⟨Node.replaceTextsIn graft document.children⟩ ∧
        (∀ text ∈ Node.shownTextsIn document.children,
          Node.outermostIn Tag.isReference (graft text) =
            (linker.pastesMet text).map fun paste => .ofMarkup (Linker.reference names paste)) ∧
        ∀ name ∈ names, ∃ tag ∈ Node.tagsNamedIn "a" (linker.link document).value.1.children,
          tag.get? "name" = some name := by
  refine ⟨_, Resolution.ofResolution_eq_ok hleft hright, fun document => ?_⟩
  let linker := Resolution.linker ⟨d, .inPage⟩
  let occurrences := (Node.shownTextsIn document.children).flatMap linker.namesIn
  have htable : (linker.tableOf document.children).names = occurrences.eraseDups := rfl
  have hlink := Linker.link_eq_linkedOnce linker document
  refine ⟨occurrences.eraseDups, linker.linkedNodes (linker.tableOf document.children),
    listsOnce_eraseDups occurrences, hlink, fun text _ => ?_, fun name hname => ?_⟩
  · rw [Linker.outermostIn_linkedNodes, ← htable]
    refine List.map_congr_left fun paste _ => ?_
    exact congrArg Node.ofMarkup (Linker.value_resolve_inPage _ paste)
  · obtain ⟨text, htext, hdefined⟩ := List.mem_flatMap.1 (List.mem_eraseDups.1 hname)
    obtain ⟨tag, htag, hname⟩ := linker.exists_anchor_linkedNodes
      (linker.tableOf document.children) hdefined
    refine ⟨tag, ?_, hname⟩
    rw [hlink]
    exact Node.mem_tagsNamedIn_replaceTextsIn htag document.children htext

/-- A paste in front of the definitions it fits: its popup lists both of them, the repeated one
first, at the anchor of their parent, and the repeated one has an anchor of its own. -/
theorem link_inPage_references_forward :
    let d : Delimiters := {}
    let document : Document :=
      ⟨[.text "<<=part.*>>", .ofTag "p" [] [.text "<<part.1>> <<part.0>> <<part.1>>"]]⟩
    (d.left ≠ "" ∧ d.right ≠ "") ∧ ∃ linker, Linker.ofResolution ⟨d, .inPage⟩ = .ok linker ∧
      ∃ graft : String → List Node,
        ListsOnce ["part.1", "part.0", "part.1"] ["part.1", "part.0"] ∧
        (linker.link document).value.1 = ⟨Node.replaceTextsIn graft document.children⟩ ∧
        Node.outermostIn Tag.isReference (graft "<<=part.*>>") =
          [.ofMarkup (Policy.popup "=part.*"
            [Markup.link "#part" "part.1", Markup.link "#part" "part.0"])] ∧
        ∃ tag ∈ Node.tagsNamedIn "a" (linker.link document).value.1.children,
          tag.get? "name" = some "part.1" := by
  intro d document
  have hleft : d.left ≠ "" := by decide
  have hright : d.right ≠ "" := by decide
  obtain ⟨linker, hlinker, hlink⟩ := link_inPage_references d hleft hright
  refine ⟨⟨hleft, hright⟩, linker, hlinker, ?_⟩
  rw [Resolution.ofResolution_eq_ok hleft hright] at hlinker
  obtain ⟨⟩ := hlinker
  obtain ⟨names, graft, hnames, hdocument, hreferences, hanchors⟩ := hlink document
  have hdefined : (Node.shownTextsIn document.children).flatMap
      (Resolution.linker ⟨d, .inPage⟩).namesIn = ["part.1", "part.0", "part.1"] := by decide +kernel
  have hmet : (Resolution.linker ⟨d, .inPage⟩).pastesMet "<<=part.*>>" = [⟨"part.*", none⟩] := by
    decide +kernel
  have hlisted : ["part.1", "part.0", "part.1"].eraseDups = ["part.1", "part.0"] := by decide
  rw [hdefined] at hnames
  obtain rfl : names = ["part.1", "part.0"] :=
    hlisted ▸ hnames.unique (listsOnce_eraseDups _)
  have hpopup : Linker.reference ["part.1", "part.0"] ⟨"part.*", none⟩ =
      Policy.popup "=part.*" [Markup.link "#part" "part.1", Markup.link "#part" "part.0"] := by
    have hfit : ["part.1", "part.0"].filter (Glob.selects "part.*") = ["part.1", "part.0"] := by
      decide +kernel
    have hone : Chunk.stripOrdinal "part.1" = "part" := by decide +kernel
    have hzero : Chunk.stripOrdinal "part.0" = "part" := by decide +kernel
    rw [Linker.reference, if_pos (by decide), hfit, List.map_cons, List.map_singleton, hone, hzero]
    rfl
  refine ⟨graft, hnames, hdocument, ?_, hanchors "part.1" (by simp)⟩
  rw [hreferences "<<=part.*>>" (by decide +kernel), hmet, List.map_singleton, hpopup]

end LiterateLinks
