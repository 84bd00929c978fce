import Mathlib.Tactic.Common
import LiterateLinks.Proofs.Document.Stamp
import LiterateLinks.Proofs.Link.InPage

/-!
# The elements that linking brings in

Linking puts nodes in the place of texts, so it keeps the elements of a document and adds those of
the replacements.  How many elements of a name there are afterwards is a sum over the shown texts
(`Node.countP_tagsNamedIn_replaceTextsIn`), and the replacements are known: a definition brings in
an anchor and the span of its label, an exact paste an anchor, a wildcard paste the spans of a
popup, its division and an anchor for every chunk that it lists.

Two things follow.  Elements of other names are neither added nor removed, and the span of a label
is added once for every definition (`Linker.countP_isLabel_linkedNodes`), because no paste brings
one in.
-/

namespace LiterateLinks

namespace Node

open Linker (skippedElements)

variable {name : String} {p : Tag → Bool}

mutual

/-- The elements at and below a node after a replacement of its texts: those that were there and
those of the replacements. -/
lemma countP_tagsNamedIn_replaceTexts (f : String → List Node) :
    ∀ n : Node, (tagsNamedIn name (replaceTexts f n)).countP p = (tagsNamed name n).countP p +
      ((shownTexts n).flatMap fun text => tagsNamedIn name (f text)).countP p
  | .text content => by simp [replaceTexts, tagsNamed, shownTexts]
  | .doctype label => by simp [replaceTexts, tagsNamed, tagsNamedIn, shownTexts]
  | .comment content => by simp [replaceTexts, tagsNamed, tagsNamedIn, shownTexts]
  | .element tag contents children => by
    by_cases hskip : tag.name ∈ skippedElements
    · simp [replaceTexts, tagsNamedIn, shownTexts, hskip]
    · have hreplace : replaceTexts f (.element tag contents children) =
          [.element tag contents (replaceTextsIn f children)] := by
        simp [replaceTexts, hskip]
      have hshown : shownTexts (.element tag contents children) = shownTextsIn children := by
        simp [shownTexts, hskip]
      have hchildren := countP_tagsNamedIn_replaceTextsIn f children
      rw [hreplace, hshown, tagsNamedIn, tagsNamedIn, List.append_nil, tagsNamed, tagsNamed]
      split
      · rw [List.countP_cons, List.countP_cons, hchildren]
        omega
      · exact hchildren

/-- The elements of siblings after a replacement of their texts: those that were there and those of
the replacements. -/
lemma countP_tagsNamedIn_replaceTextsIn (f : String → List Node) :
    ∀ nodes : List Node, (tagsNamedIn name (replaceTextsIn f nodes)).countP p =
      (tagsNamedIn name nodes).countP p +
        ((shownTextsIn nodes).flatMap fun text => tagsNamedIn name (f text)).countP p
  | [] => by simp [replaceTextsIn, tagsNamedIn, shownTextsIn]
  | n :: ns => by
    have hfirst := countP_tagsNamedIn_replaceTexts f n
    have hrest := countP_tagsNamedIn_replaceTextsIn f ns
    simp only [replaceTextsIn, tagsNamedIn_append, tagsNamedIn, shownTextsIn, List.flatMap_append,
      List.countP_append, hfirst, hrest]
    omega

end

/-- A replacement that changes nothing brings in no elements. -/
lemma tagsNamedIn_eq_nil_of_replaceTextsIn_eq {f : String → List Node} {nodes : List Node}
    (h : replaceTextsIn f nodes = nodes) {text : String} (htext : text ∈ shownTextsIn nodes) :
    tagsNamedIn name (f text) = [] := by
  have hcount : (tagsNamedIn name (replaceTextsIn f nodes)).countP (fun _ => true) =
      (tagsNamedIn name nodes).countP (fun _ => true) +
        ((shownTextsIn nodes).flatMap fun text => tagsNamedIn name (f text)).countP fun _ => true :=
    countP_tagsNamedIn_replaceTextsIn f nodes
  rw [h] at hcount
  have hadded : ((shownTextsIn nodes).flatMap fun text => tagsNamedIn name (f text)) = [] := by
    rw [← List.length_eq_zero_iff, ← List.countP_true]
    omega
  exact List.flatMap_eq_nil_iff.1 hadded text htext

end Node

namespace Linker

open Node (tagsNamed tagsNamedIn)

/-! ## Replacements of pastes -/

section Links

variable {name : String} (hname : "a" ≠ name)

include hname

/-- A link is an anchor. -/
lemma tagsNamed_link (href text : String) :
    tagsNamed name (.ofMarkup (Markup.link href text)) = [] := by
  simp [Markup.link, Node.ofMarkup, Node.ofMarkups, Node.ofTag, tagsNamed, tagsNamedIn, hname]

/-- A list of links consists of anchors. -/
lemma tagsNamedIn_links (links : List (String × String)) :
    tagsNamedIn name (Node.ofMarkups (links.map fun link => Markup.link link.1 link.2)) = [] := by
  induction links with
  | nil => rfl
  | cons link links ih =>
    rw [List.map_cons, Node.ofMarkups, tagsNamedIn, tagsNamed_link hname, ih, List.append_nil]

/-- The replacement of a paste is an anchor or a popup, which has two spans and a division of its
own and anchors inside. -/
lemma tagsNamed_resolve_of_ne (policy : Policy) (symbols : SymbolTable) (t : MarkerText) :
    tagsNamed name (.ofMarkup (policy.resolve symbols t).value) =
      if t.isWildcard then tagsNamed name (.ofMarkup (Policy.popup t.pasteLabel [])) else [] := by
  unfold Policy.resolve
  split
  · have hlinks := tagsNamedIn_links hname
      ((policy.fitting symbols t.name).value.map fun found => (found.2.href, found.1))
    simp only [List.map_map, Function.comp_def] at hlinks
    simp only [Logged.value_bind, Logged.value_pure, Policy.popup, Node.ofMarkup, Node.ofMarkups,
      Node.ofTag, tagsNamed, tagsNamedIn, hlinks]
  · exact tagsNamed_link hname _ _

end Links

/-- The elements that the pastes of a text bring in. -/
lemma tagsNamedIn_pasteNodes_eq (linker : Linker) (symbols : SymbolTable) (text name : String) :
    tagsNamedIn name (linker.pasteNodes symbols text) = (linker.pastesIn text).flatMap fun paste =>
      tagsNamed name (.ofMarkup (linker.policy.resolve symbols paste).value) := by
  rw [pasteNodes, linkPastes_value, Node.tagsNamedIn_eq_flatMap, List.flatMap_map,
    LinkedText.flatMap_segments_ofScan (by simp [markerTexts]) fun _ => rfl, List.flatMap_map]
  rfl

section Tags

variable {name : String} (hname : "a" ≠ name ∧ "span" ≠ name ∧ "div" ≠ name)

include hname

/-- The replacement of a paste is made of anchors, spans and divisions. -/
lemma tagsNamed_resolve (policy : Policy) (symbols : SymbolTable) (t : MarkerText) :
    tagsNamed name (.ofMarkup (policy.resolve symbols t).value) = [] := by
  rw [tagsNamed_resolve_of_ne hname.1]
  simp [Policy.popup, Node.ofMarkup, Node.ofMarkups, Node.ofTag, tagsNamed, tagsNamedIn, hname]

/-- Linking the pastes of a text brings in no other elements. -/
lemma tagsNamedIn_pasteNodes (linker : Linker) (symbols : SymbolTable) (text : String) :
    tagsNamedIn name (linker.pasteNodes symbols text) = [] := by
  rw [tagsNamedIn_pasteNodes_eq, List.flatMap_eq_nil_iff]
  exact fun paste _ => tagsNamed_resolve hname _ _ paste

/-- Linking a text brings in no other elements. -/
lemma tagsNamedIn_linkedNodes (linker : Linker) (symbols : SymbolTable) (text : String) :
    tagsNamedIn name (linker.linkedNodes symbols text) = [] := by
  have hpaste := tagsNamedIn_pasteNodes hname linker symbols
  rw [linkedNodes, linkDefinitions_fst, Node.tagsNamedIn_eq_flatMap, List.flatMap_eq_nil_iff]
  intro n hn
  obtain ⟨segment, hsegment, hn⟩ := List.mem_flatMap.1 hn
  suffices hnil : tagsNamedIn name (linker.linkSegment symbols segment) = [] by
    rw [Node.tagsNamedIn_eq_flatMap, List.flatMap_eq_nil_iff] at hnil
    exact hnil n hn
  rcases LinkedText.mem_segments_ofScan hsegment with ⟨s, -, rfl⟩ | ⟨replacement, hmem, rfl⟩
  · exact hpaste _
  · obtain ⟨t, -, rfl⟩ := List.mem_map.1 hmem
    rw [linkSegment, Node.tagsNamedIn_replaceTexts hpaste]
    simp [anchor, Node.ofMarkup, Node.ofMarkups, Node.ofTag, tagsNamed, tagsNamedIn, hname]

end Tags

end Linker

/-! ## Labels of definitions -/

/-- Whether a span holds the label of a definition. -/
def Tag.isLabel (tag : Tag) : Bool :=
  tag.get? "class" == some "lpdefine"

namespace Linker

open Node (tagsNamed tagsNamedIn)

/-- No paste brings in the span of a label. -/
lemma filter_isLabel_pasteNodes (linker : Linker) (symbols : SymbolTable) (text : String) :
    (tagsNamedIn "span" (linker.pasteNodes symbols text)).filter Tag.isLabel = [] := by
  rw [tagsNamedIn_pasteNodes_eq, List.filter_flatMap, List.flatMap_eq_nil_iff]
  intro paste _
  rw [tagsNamed_resolve_of_ne (by decide)]
  split
  · rfl
  · rfl

/-- The tag of the span that holds the label of a definition. -/
def labelTag : Tag :=
  { name := "span", attributes := [{ name := "class", value := "lpdefine" }] }

/-- The anchor of a definition brings in the span of its label and no other, also when the pastes of
the label are linked. -/
lemma filter_isLabel_anchor (linker : Linker) (symbols : SymbolTable) (t : MarkerText) :
    (tagsNamedIn "span" (linker.linkSegment symbols (.markup (anchor t)))).filter Tag.isLabel =
      [labelTag] := by
  have htags : tagsNamedIn "span" (linker.linkSegment symbols (.markup (anchor t))) =
      labelTag :: tagsNamedIn "span" (linker.pasteNodes symbols t.definitionLabel) := by
    rw [linkSegment_markup_anchor]
    simp [Node.ofTag, tagsNamedIn, tagsNamed, labelTag]
  have hlabel : labelTag.isLabel = true := by decide
  rw [htags, List.filter_cons_of_pos hlabel, filter_isLabel_pasteNodes]

/-- Every definition of a text brings in one span of a label. -/
lemma countP_isLabel_linkedNodes (linker : Linker) (symbols : SymbolTable) (text : String) :
    (tagsNamedIn "span" (linker.linkedNodes symbols text)).countP Tag.isLabel =
      (linker.definitionsIn text).length := by
  let labels : Segment → List Tag := fun segment =>
    (tagsNamedIn "span" (linker.linkSegment symbols segment)).filter Tag.isLabel
  have hsegments : (tagsNamedIn "span" (linker.linkedNodes symbols text)).filter Tag.isLabel =
      (linker.linkDefinitions symbols text).1.segments.flatMap labels := by
    rw [linkedNodes, Node.tagsNamedIn_eq_flatMap, List.flatMap_assoc, List.filter_flatMap]
    simp only [labels, Node.tagsNamedIn_eq_flatMap]
  have hstretch : ∀ content, labels (.text content) = [] := filter_isLabel_pasteNodes linker symbols
  have hlen : ((linker.definitionsIn text).map anchor).length =
      (linker.markers.definition.scan text.toList).hits.length := by
    simp [definitionsIn, markerTexts]
  rw [List.countP_eq_length_filter, hsegments, linkDefinitions_fst,
    LinkedText.flatMap_segments_ofScan hlen hstretch, List.flatMap_map]
  simp only [labels, filter_isLabel_anchor, ← List.map_eq_flatMap, List.length_map]

/-- A paste brings in an anchor or a span. -/
lemma tagsNamed_resolve_ne_nil (policy : Policy) (symbols : SymbolTable) (t : MarkerText) :
    tagsNamed "a" (.ofMarkup (policy.resolve symbols t).value) ≠ [] ∨
      tagsNamed "span" (.ofMarkup (policy.resolve symbols t).value) ≠ [] := by
  unfold Policy.resolve
  split
  · right
    simp [Policy.popup, Node.ofMarkup, Node.ofTag, tagsNamed]
  · left
    simp [Markup.link, Node.ofMarkup, Node.ofTag, tagsNamed]

/-- A text whose pastes bring in neither an anchor nor a span holds no paste. -/
lemma pastesIn_eq_nil_of_tagsNamedIn_eq_nil {linker : Linker} {symbols : SymbolTable}
    {text : String} (hanchors : tagsNamedIn "a" (linker.pasteNodes symbols text) = [])
    (hspans : tagsNamedIn "span" (linker.pasteNodes symbols text) = []) :
    linker.pastesIn text = [] := by
  rw [tagsNamedIn_pasteNodes_eq, List.flatMap_eq_nil_iff] at hanchors hspans
  rw [List.eq_nil_iff_forall_not_mem]
  intro paste hpaste
  rcases tagsNamed_resolve_ne_nil linker.policy symbols paste with hanchor | hspan
  · exact hanchor (hanchors paste hpaste)
  · exact hspan (hspans paste hpaste)

end Linker

end LiterateLinks
