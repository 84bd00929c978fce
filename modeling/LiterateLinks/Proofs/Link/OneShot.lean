import Mathlib.Tactic.Common
import LiterateLinks.Document.Serialize
import LiterateLinks.Proofs.Chunk.Table
import LiterateLinks.Proofs.Link.Text
import LiterateLinks.Proofs.Link.Walk
import LiterateLinks.Proofs.Marker.Expression

/-!
# Linking a document in one step

A document is linked by two walks.  The first one replaces definitions and fills a table of names on
its way, the second one replaces pastes in the tree that the first one left, with the finished
table.  This file shows that the two walks come to a single replacement of the shown texts of the
document.

The table is known beforehand: it lists the definitions of all shown texts, each name once, at its
first place (`Linker.tableOf`).  With it, every shown text is replaced by itself
(`Linker.linkedNodes`): it is cut at its definitions, the stretches between them are cut at their
pastes, and the label inside every anchor is cut at its pastes too.  Nothing else changes.
-/

namespace LiterateLinks

namespace SymbolTable

/-- The table of some names, each listed once, at its first place. -/
def ofNames (names : List String) : SymbolTable :=
  ⟨names.eraseDups, names.eraseDups.reverse⟩

/-- No names make the empty table. -/
@[simp] lemma ofNames_nil : ofNames [] = {} := rfl

/-- The names are listed without their repetitions. -/
@[simp] lemma names_ofNames (names : List String) : (ofNames names).names = names.eraseDups := rfl

/-- The set of such a table is in step with its names. -/
lemma inStep_ofNames (names : List String) : (ofNames names).InStep :=
  fun _ => List.mem_reverse

/-- Recording a name that comes after others keeps the first occurrence of each. -/
lemma insert_ofNames (names : List String) (name : String) :
    (ofNames names).insert name = ofNames (names ++ [name]) := by
  by_cases h : name ∈ names
  · rw [(inStep_ofNames names).insert_of_mem (List.mem_eraseDups.2 h)]
    simp [ofNames, List.eraseDups_append, List.removeAll, h]
  · rw [(inStep_ofNames names).insert_of_not_mem (mt List.mem_eraseDups.1 h)]
    simp [ofNames, List.eraseDups_append, List.removeAll, List.eraseDups_cons, h]

/-- Recording names one after the other keeps the first occurrence of each. -/
lemma foldl_insert_ofNames (names more : List String) :
    more.foldl insert (ofNames names) = ofNames (names ++ more) := by
  induction more generalizing names with
  | nil => simp
  | cons name more ih =>
    rw [List.foldl_cons, insert_ofNames, ih, List.append_assoc, List.singleton_append]

end SymbolTable

namespace Linker

open Node (shownTextsIn replaceTexts replaceTextsIn)

/-! ## The table of a document -/

/-- The names defined in a text, in order. -/
def namesIn (linker : Linker) (text : String) : List String :=
  (linker.definitionsIn text).map (·.name)

/-- The names a document defines in its shown texts, each once, in the order of their first
definition; none when the policy does not collect names. -/
def tableOf (linker : Linker) (nodes : List Node) : SymbolTable :=
  if linker.policy.collects then .ofNames ((shownTextsIn nodes).flatMap linker.namesIn) else {}

/-- Linking the definitions of a text records their names. -/
lemma linkDefinitions_snd (linker : Linker) (symbols : SymbolTable) (text : String) :
    (linker.linkDefinitions symbols text).2 =
      if linker.policy.collects then (linker.namesIn text).foldl SymbolTable.insert symbols
      else symbols := by
  simp [linkDefinitions, namesIn, definitionsIn, List.foldl_map]

/-- The names collected over several texts. -/
lemma foldl_linkDefinitions (linker : Linker) (hcollects : linker.policy.collects = true)
    (names : List String) (texts : List String) :
    texts.foldl (fun symbols text => (linker.linkDefinitions symbols text).2)
        (.ofNames names) =
      .ofNames (names ++ texts.flatMap linker.namesIn) := by
  induction texts generalizing names with
  | nil => simp
  | cons text texts ih =>
    rw [List.foldl_cons, linkDefinitions_snd, if_pos hcollects, SymbolTable.foldl_insert_ofNames,
      ih, List.flatMap_cons, List.append_assoc]

/-- No names are collected when the policy does not ask for them. -/
lemma foldl_linkDefinitions_of_not_collects (linker : Linker)
    (hcollects : linker.policy.collects = false) (symbols : SymbolTable) (texts : List String) :
    texts.foldl (fun symbols text => (linker.linkDefinitions symbols text).2) symbols =
      symbols := by
  induction texts with
  | nil => rfl
  | cons text texts ih => simp [linkDefinitions_snd, hcollects]

/-- The first walk ends with the table of the document. -/
lemma foldl_linkDefinitions_eq_tableOf (linker : Linker) (nodes : List Node) :
    (shownTextsIn nodes).foldl (fun symbols text => (linker.linkDefinitions symbols text).2) {} =
      linker.tableOf nodes := by
  unfold tableOf
  cases hcollects : linker.policy.collects with
  | true => exact foldl_linkDefinitions linker hcollects [] (shownTextsIn nodes)
  | false => exact foldl_linkDefinitions_of_not_collects linker hcollects {} _

/-! ## The replacement of a text -/

/-- The nodes of a text cut at its pastes. -/
def pasteNodes (linker : Linker) (symbols : SymbolTable) (text : String) : List Node :=
  (linker.linkPastes symbols text).value.segments.map Segment.toNode

/-- The nodes of a segment of a text cut at its definitions: a stretch is cut at its pastes, and so
is the label inside an anchor. -/
def linkSegment (linker : Linker) (symbols : SymbolTable) : Segment → List Node
  | .text content => linker.pasteNodes symbols content
  | .markup replacement => replaceTexts (linker.pasteNodes symbols) (.ofMarkup replacement)

/-- An anchor with the pastes of its label linked. -/
lemma linkSegment_markup_anchor (linker : Linker) (symbols : SymbolTable) (t : MarkerText) :
    linker.linkSegment symbols (.markup (anchor t)) =
      [.ofTag "a" [("name", t.name)]
        [.ofTag "span" [("class", "lpdefine")] (linker.pasteNodes symbols t.definitionLabel)]] := by
  simp [linkSegment, anchor, Node.ofMarkup, Node.ofMarkups, Node.ofTag, replaceTexts,
    replaceTextsIn, skippedElements]

/-- The nodes that take the place of a text when its definitions and its pastes are linked with a
given table. -/
def linkedNodes (linker : Linker) (symbols : SymbolTable) (text : String) : List Node :=
  (linker.linkDefinitions symbols text).1.segments.flatMap (linker.linkSegment symbols)

/-- The nodes of a document whose shown texts are linked with the table of the document. -/
def linkedOnce (linker : Linker) (nodes : List Node) : List Node :=
  replaceTextsIn (linker.linkedNodes (linker.tableOf nodes)) nodes

/-- The first walk replaces a text by its segments. -/
lemma graft_linkDefinitions (linker : Linker) (symbols : SymbolTable) :
    graft (fun text => (linker.linkDefinitions symbols text).1) =
      fun text => (linker.linkDefinitions symbols text).1.segments.map Segment.toNode := by
  funext text
  simp only [graft, linkDefinitions_fst]
  exact nodes_ofScan (by simp [definitionsIn, markerTexts])

/-- The second walk replaces a text by its segments. -/
lemma graft_linkPastes (linker : Linker) (symbols : SymbolTable) :
    graft (fun text => (linker.linkPastes symbols text).value) = linker.pasteNodes symbols := by
  funext text
  simp only [graft, pasteNodes, linkPastes_value]
  exact nodes_ofScan (by simp [markerTexts])

/-- The second walk over what the first one has put in the place of a text. -/
lemma replaceTextsIn_segments (linker : Linker) (symbols : SymbolTable) (segments : List Segment) :
    replaceTextsIn (linker.pasteNodes symbols) (segments.map Segment.toNode) =
      segments.flatMap (linker.linkSegment symbols) := by
  rw [Node.replaceTextsIn_eq_flatMap, List.flatMap_map]
  refine List.flatMap_congr fun segment _ => ?_
  cases segment with
  | text content => simp [Segment.toNode, linkSegment, replaceTexts]
  | markup replacement => rfl

/-! ## The two walks -/

/-- The first walk: it replaces the definitions and ends with the table of the document. -/
lemma walkDefinitions_eq (linker : Linker) (nodes : List Node) :
    linker.walkDefinitions nodes =
      (replaceTextsIn
          (fun text => (linker.linkDefinitions {} text).1.segments.map Segment.toNode) nodes,
        linker.tableOf nodes,
        (shownTextsIn nodes).foldl
          (fun tally text => tally.count (linker.linkDefinitions {} text).1) {}) := by
  unfold walkDefinitions
  rw [visitNodes_eq_walkNodes, walkNodes_eq _ fun text => (linker.linkDefinitions {} text).1]
  · rw [graft_linkDefinitions, foldl_linkDefinitions_eq_tableOf]
  · exact fun _ _ => rfl

/-- The second walk: it replaces the pastes and collects their events. -/
lemma walkPastes_eq (linker : Linker) (symbols : SymbolTable) (nodes : List Node) :
    linker.walkPastes symbols nodes =
      (replaceTextsIn (linker.pasteNodes symbols) nodes,
        (shownTextsIn nodes).flatMap fun text => (linker.linkPastes symbols text).log,
        (shownTextsIn nodes).foldl
          (fun tally text => tally.count (linker.linkPastes symbols text).value) {}) := by
  unfold walkPastes
  rw [visitNodes_eq_walkNodes, walkNodes_eq _ fun text => (linker.linkPastes symbols text).value]
  · rw [graft_linkPastes, List.flatMap_eq_foldl]
  · exact fun _ _ => rfl

/-- The two walks come to one replacement of the shown texts. -/
lemma link_eq_linkedOnce (linker : Linker) (document : Document) :
    (linker.link document).value.1 = ⟨linker.linkedOnce document.children⟩ := by
  simp only [link, walkDefinitions_eq, walkPastes_eq, Node.replaceTextsIn_replaceTextsIn,
    replaceTextsIn_segments]
  rfl

end Linker

namespace Resolution

/-- The linker of settings with non-empty delimiters. -/
def linker (r : Resolution) : Linker :=
  ⟨r.policy, r.delimiters.definition, r.delimiters.paste⟩

/-- Settings with non-empty delimiters always give a linker. -/
lemma ofResolution_eq_ok {r : Resolution} (hleft : r.delimiters.left ≠ "")
    (hright : r.delimiters.right ≠ "") : Linker.ofResolution r = .ok r.linker := by
  rw [Linker.ofResolution, Markers.ofDelimiters_eq_ok hleft hright]
  rfl

end Resolution

/-- Linking a document under settings with non-empty delimiters is one replacement of its shown
texts: each is cut at its definitions and, with the table of all names defined in the document, at
its pastes; all other nodes stay as they are. -/
theorem link_document_eq_linkedOnce (r : Resolution) (hleft : r.delimiters.left ≠ "")
    (hright : r.delimiters.right ≠ "") :
    Linker.ofResolution r = .ok r.linker ∧ ∀ document : Document,
      (r.linker.link document).value.1 = ⟨r.linker.linkedOnce document.children⟩ :=
  ⟨Resolution.ofResolution_eq_ok hleft hright, Linker.link_eq_linkedOnce r.linker⟩

/-- A wildcard in front of the definition that it finds, with a script in between: the popup knows
the name from the table of the document, and the script stays as it is. -/
theorem link_document_eq_linkedOnce_default :
    let r : Resolution := {}
    let document : Document :=
      ⟨[.ofTag "p" [] [.text "see <<=i*>>"], .ofTag "script" [] [.text "<<it>>"],
        .ofTag "pre" [] [.text "<<io>>..."]]⟩
    r.delimiters.left ≠ "" ∧ r.delimiters.right ≠ "" ∧ Linker.ofResolution r = .ok r.linker ∧
      (r.linker.link document).value.1 = ⟨r.linker.linkedOnce document.children⟩ ∧
      (r.linker.link document).value.1.serialize =
        "<p>see <span class=\"popup\">=i*<div><span id=\"caption\">Matched:</span>" ++
          "<a href=\"#io\">io</a></div></span></p><script><<it>></script>" ++
          "<pre><a name=\"io\"><span class=\"lpdefine\">(io)</span></a>...</pre>" := by
  intro r document
  have hleft : r.delimiters.left ≠ "" := by decide
  have hright : r.delimiters.right ≠ "" := by decide
  obtain ⟨hlinker, hlink⟩ := link_document_eq_linkedOnce r hleft hright
  refine ⟨hleft, hright, hlinker, hlink document, ?_⟩
  rw [hlink document]
  decide +kernel

end LiterateLinks
