import Mathlib.Tactic.Common
import LiterateLinks.Proofs.Publish.Again

/-!
# What publishing leaves alone

Scripts, styles, templates, text areas and titles are left alone when a page is linked.  On trees
this holds without exception: linking replaces text outside of these elements, and the mark goes
into the head.

The page that is published is text, however, and not all of the tree is written.  The contents of a
template are no children of it, and only children are written, so they are lost.  The first line
feed of a text area is lost when the page is read.  For a page that comes out tidy nothing else is
lost: the elements are the same in the published page exactly when no template has contents and no
text area starts with a line feed.  The file ends with a page where all five elements are kept and
one where the contents of a template are lost.
-/

namespace LiterateLinks

namespace Node

open Linker (skippedElements)
open Html.Builder (dropLineFeed notMem_of_isContainer role textNodes)

/-! ## Elements that are left alone -/

mutual

/-- The outermost elements at or below a node whose text is left alone, in document order and with
all that is in them. -/
def leftAlone : Node → List Node
  | .element tag contents children =>
    if skippedElements.contains tag.name then [.element tag contents children]
    else leftAloneIn children
  | _ => []

/-- The elements among or below siblings whose text is left alone. -/
def leftAloneIn : List Node → List Node
  | [] => []
  | n :: ns => leftAlone n ++ leftAloneIn ns

end

/-- Siblings are looked through one after the other. -/
lemma leftAloneIn_append (ms ns : List Node) :
    leftAloneIn (ms ++ ns) = leftAloneIn ms ++ leftAloneIn ns := by
  induction ms with
  | nil => rfl
  | cons m ms ih => simp [leftAloneIn, ih]

mutual

/-- Nothing is left alone where no such element occurs. -/
lemma leftAlone_eq_nil : ∀ n : Node, (∀ name ∈ skippedElements, tagsNamed name n = []) →
    leftAlone n = []
  | .text _, _ | .doctype _, _ | .comment _, _ => by simp [leftAlone]
  | .element tag contents children, h => by
    have hskip : tag.name ∉ skippedElements := fun hmem => by
      simpa [tagsNamed] using h tag.name hmem
    rw [leftAlone, if_neg (by simpa using hskip)]
    refine leftAloneIn_eq_nil children fun name hname => ?_
    have hne : tag.name ≠ name := fun heq => hskip (heq ▸ hname)
    simpa [tagsNamed, hne] using h name hname

/-- Nothing is left alone among siblings where no such element occurs. -/
lemma leftAloneIn_eq_nil : ∀ ns : List Node, (∀ name ∈ skippedElements, tagsNamedIn name ns = []) →
    leftAloneIn ns = []
  | [], _ => rfl
  | n :: ns, h => by
    have hn : ∀ name ∈ skippedElements, tagsNamed name n = [] ∧ tagsNamedIn name ns = [] :=
      fun name hname => by simpa [tagsNamedIn] using h name hname
    rw [leftAloneIn, leftAlone_eq_nil n fun name hname => (hn name hname).1,
      leftAloneIn_eq_nil ns fun name hname => (hn name hname).2, List.append_nil]

end

mutual

/-- Replacing texts leaves the elements alone, at and below a node. -/
lemma leftAloneIn_replaceTexts {f : String → List Node} (hf : ∀ text, leftAloneIn (f text) = []) :
    ∀ n : Node, leftAloneIn (replaceTexts f n) = leftAlone n
  | .text content => by simp [replaceTexts, leftAlone, hf]
  | .doctype _ | .comment _ => by simp [replaceTexts, leftAlone, leftAloneIn]
  | .element tag contents children => by
    by_cases hskip : tag.name ∈ skippedElements
    · simp [replaceTexts, leftAlone, leftAloneIn, hskip]
    · simp [replaceTexts, leftAlone, leftAloneIn, hskip, leftAloneIn_replaceTextsIn hf children]

/-- Replacing texts leaves the elements alone. -/
lemma leftAloneIn_replaceTextsIn {f : String → List Node} (hf : ∀ text, leftAloneIn (f text) = []) :
    ∀ ns : List Node, leftAloneIn (replaceTextsIn f ns) = leftAloneIn ns
  | [] => by simp [replaceTextsIn, leftAloneIn]
  | n :: ns => by
    rw [replaceTextsIn, leftAloneIn_append, leftAloneIn_replaceTexts hf n,
      leftAloneIn_replaceTextsIn hf ns, leftAloneIn]

end

/-- The first element with a name is one. -/
lemma Spot.tagsNamedIn_ne_nil {name : String} {around : List Node → List Node}
    (h : Spot name around) (children : List Node) : tagsNamedIn name (around children) ≠ [] := by
  intro hnil
  have hchange := h.changeNamedIn?_eq id children
  rw [changeNamedIn?_eq_none id _ hnil] at hchange
  cases hchange

/-- The first element with a name that is not left alone is found outside the elements that are, or
in one of them. -/
lemma Spot.leftAloneIn_eq {name : String} {around : List Node → List Node} (h : Spot name around)
    (hname : name ∉ skippedElements) :
    (∃ before after, ∀ children,
      leftAloneIn (around children) = before ++ leftAloneIn children ++ after) ∨
        ∀ children, ∃ n ∈ leftAloneIn (around children), tagsNamed name n ≠ [] := by
  induction h with
  | @here tag contents before after _ htag =>
    refine Or.inl ⟨leftAloneIn before, leftAloneIn after, fun children => ?_⟩
    have hskip : tag.name ∉ skippedElements := htag ▸ hname
    simp [leftAloneIn_append, leftAloneIn, leftAlone, hskip]
  | @inside tag contents before after inner hbefore htag hspot ih =>
    by_cases hskip : tag.name ∈ skippedElements
    · refine Or.inr fun children => ⟨.element tag contents (inner children), ?_, ?_⟩
      · simp [leftAloneIn_append, leftAloneIn, leftAlone, hskip]
      · simpa [tagsNamed, htag] using hspot.tagsNamedIn_ne_nil children
    · rcases ih with ⟨before', after', heq⟩ | hmem
      · refine Or.inl ⟨leftAloneIn before ++ before', after' ++ leftAloneIn after,
          fun children => ?_⟩
        simp [leftAloneIn_append, leftAloneIn, leftAlone, hskip, heq]
      · refine Or.inr fun children => ?_
        obtain ⟨n, hn, htags⟩ := hmem children
        exact ⟨n, by simp [leftAloneIn_append, leftAloneIn, leftAlone, hskip, hn], htags⟩

/-! ## Reading them again -/

/-- In text no element is left alone. -/
lemma leftAloneIn_textNodes (text : List Char) : leftAloneIn (textNodes text) = [] := by
  unfold textNodes
  split <;> simp [leftAloneIn, leftAlone]

/-- Leaving out a line feed changes no element. -/
lemma leftAloneIn_leaveOutLineFeed (ns : List Node) :
    leftAloneIn (leaveOutLineFeed ns) = leftAloneIn ns := by
  unfold leaveOutLineFeed
  split
  · simp [leftAloneIn_append, leftAloneIn_textNodes, leftAloneIn, leftAlone]
  · rfl

mutual

/-- The elements that are left alone are read one by one, at and below a node. -/
lemma leftAlone_reread : ∀ n : Node, leftAlone (reread n) = (leftAlone n).map reread
  | .text _ | .doctype _ | .comment _ => by simp [reread, leftAlone]
  | .element tag contents children => by
    rw [reread, leftAlone, leftAlone]
    split
    · rw [List.map_singleton, reread]
    · rw [← leftAloneIn_rereadAll children]
      split
      · exact leftAloneIn_leaveOutLineFeed _
      · rfl

/-- The elements that are left alone are read one by one. -/
lemma leftAloneIn_rereadAll :
    ∀ ns : List Node, leftAloneIn (rereadAll ns) = (leftAloneIn ns).map reread
  | [] => rfl
  | n :: ns => by
    rw [rereadAll, leftAloneIn, leftAloneIn, leftAlone_reread n, leftAloneIn_rereadAll ns,
      List.map_append]

end

/-- Whether an element that is left alone is read as it was: it is no template with contents, and no
text area whose text starts with a line feed. -/
def isReadBack : Node → Bool
  | .element tag contents children =>
    contents.all List.isEmpty && !(tag.name == "textarea" && startsInLineFeed children)
  | _ => true
where
  startsInLineFeed : List Node → Bool
    | .text content :: _ => content.toList.head? == some '\n'
    | _ => false

/-- The elements that are left alone hold no other elements in tidy nodes. -/
def IsTidySkipped (n : Node) : Prop :=
  ∃ tag contents children, n = .element tag contents children ∧ tag.name ∈ skippedElements ∧
    isTidyContent contents children (role tag.name) = true

mutual

/-- The elements at or below a tidy node that are left alone. -/
lemma isTidySkipped_of_mem_leftAlone : ∀ (m : Node) {names : List String} {n : Node},
    isTidy names m = true → n ∈ leftAlone m → IsTidySkipped n
  | .text _, _, _, _, hn | .doctype _, _, _, _, hn | .comment _, _, _, _, hn => by
    simp [leftAlone] at hn
  | .element tag contents children, names, n, h, hn => by
    simp only [isTidy, Bool.and_eq_true, Bool.or_eq_true] at h
    by_cases hskip : tag.name ∈ skippedElements
    · simp only [leftAlone, List.contains_iff_mem.2 hskip, if_true, List.mem_singleton] at hn
      refine ⟨tag, contents, children, hn, hskip, h.2.resolve_right fun hcontainer => ?_⟩
      exact notMem_of_isContainer (by decide) hcontainer.1.1 hskip
    · rw [leftAlone, if_neg (by simpa using hskip)] at hn
      rcases h.2 with hcontent | hcontainer
      · obtain ⟨text, rfl, -⟩ := exists_eq_textNodes_of_isTidyContent hcontent
        simp [leftAloneIn_textNodes] at hn
      · exact isTidySkipped_of_mem_leftAloneIn children hcontainer.2 hn

/-- The elements among or below tidy siblings that are left alone. -/
lemma isTidySkipped_of_mem_leftAloneIn : ∀ (ms : List Node) {names : List String} {afterText : Bool}
    {n : Node}, areTidy names afterText ms = true → n ∈ leftAloneIn ms → IsTidySkipped n
  | [], _, _, _, _, hn => by simp [leftAloneIn] at hn
  | m :: ms, _, _, _, h, hn => by
    simp only [areTidy, Bool.and_eq_true] at h
    rcases List.mem_append.1 hn with hn | hn
    · exact isTidySkipped_of_mem_leftAlone m h.1.2 hn
    · exact isTidySkipped_of_mem_leftAloneIn ms h.2 hn

end

/-- Texts that give the same nodes are the same. -/
lemma textNodes_inj {u v : List Char} : textNodes u = textNodes v ↔ u = v := by
  refine ⟨fun h => ?_, congrArg textNodes⟩
  cases u <;> cases v <;> simp [textNodes, ← String.toList_inj] at h ⊢
  exact h

/-- A text is the same without a line feed in front if it does not start with one. -/
lemma textNodes_dropLineFeed_eq_iff (text : List Char) :
    textNodes (dropLineFeed text) = textNodes text ↔
      isReadBack.startsInLineFeed (textNodes text) = false := by
  rw [textNodes_inj]
  cases text with
  | nil => simp [dropLineFeed, textNodes, isReadBack.startsInLineFeed]
  | cons c cs =>
    have hstarts : isReadBack.startsInLineFeed (textNodes (c :: cs)) = (c == '\n') := by
      simp [textNodes, isReadBack.startsInLineFeed]
    rw [hstarts]
    by_cases hc : c = '\n'
    · subst hc
      simp [dropLineFeed]
    · simp [dropLineFeed, hc]

namespace IsTidySkipped

variable {n : Node}

/-- No elements with other names occur in it. -/
lemma tagsNamed_eq_nil (h : IsTidySkipped n) {name : String} (hname : name ∉ skippedElements) :
    tagsNamed name n = [] := by
  obtain ⟨tag, contents, children, rfl, hskip, hcontent⟩ := h
  obtain ⟨text, rfl, -⟩ := exists_eq_textNodes_of_isTidyContent hcontent
  have hne : tag.name ≠ name := fun heq => hname (heq ▸ hskip)
  have htext : tagsNamedIn name (textNodes text) = [] := by
    unfold textNodes
    split <;> simp [tagsNamedIn, tagsNamed]
  rw [tagsNamed, if_neg hne, htext]

/-- It is read as it was unless it is a template with contents or a text area with a line feed in
front. -/
lemma reread_eq_iff (h : IsTidySkipped n) : n.reread = n ↔ n.isReadBack = true := by
  obtain ⟨tag, contents, children, rfl, hskip, hcontent⟩ := h
  have hleaves : ∀ name ∈ skippedElements, leavesOutLineFeed name = (name == "textarea") := by
    decide
  obtain ⟨text, rfl, -⟩ := exists_eq_textNodes_of_isTidyContent hcontent
  have hcontents : (contents.map fun _ => ([] : List Node)) = contents ↔
      contents.all List.isEmpty = true := by
    cases contents with
    | none => simp
    | some lost => cases lost <;> simp
  have htext : (if leavesOutLineFeed tag.name then leaveOutLineFeed (rereadAll (textNodes text))
      else rereadAll (textNodes text)) = textNodes text ↔
      (tag.name == "textarea" && isReadBack.startsInLineFeed (textNodes text)) = false := by
    rw [hleaves tag.name hskip, rereadAll_textNodes, leaveOutLineFeed_textNodes]
    cases tag.name == "textarea" with
    | false => simp
    | true => simpa using textNodes_dropLineFeed_eq_iff text
  rw [reread, isReadBack, Node.element.injEq, Bool.and_eq_true, Bool.not_eq_true', hcontents, htext]
  exact ⟨fun heq => heq.2, fun heq => ⟨rfl, heq⟩⟩

end IsTidySkipped

/-! ## Template contents -/

mutual

/-- The node with the contents of all templates taken out. -/
def emptied : Node → Node
  | .element tag contents children =>
    .element tag (contents.map fun _ => []) (emptiedAll children)
  | n => n

/-- Siblings with the contents of all templates taken out. -/
def emptiedAll : List Node → List Node
  | [] => []
  | n :: ns => emptied n :: emptiedAll ns

end

end Node

namespace Document

open Node (areTidy leftAlone leftAloneIn leftAloneIn_append tagsNamed)

/-- The outermost elements whose text is left alone, with all that is in them. -/
def leftAlone (document : Document) : List Node :=
  Node.leftAloneIn document.children

/-- The document with the contents of all templates taken out. -/
def emptied (document : Document) : Document :=
  ⟨Node.emptiedAll document.children⟩

mutual

/-- The contents of templates are not written. -/
lemma writeNode_emptied : ∀ (n : Node) (around : Surroundings),
    writeNode around n.emptied = writeNode around n
  | .text _, _ | .doctype _, _ | .comment _, _ => by simp [Node.emptied]
  | .element tag contents children, around => by
    simp only [Node.emptied, writeNode, writeNodes_emptiedAll children]

/-- The contents of templates among or below siblings are not written. -/
lemma writeNodes_emptiedAll : ∀ (ns : List Node) (around : Surroundings),
    writeNodes around (Node.emptiedAll ns) = writeNodes around ns
  | [], _ => by simp [Node.emptiedAll]
  | n :: ns, around => by
    simp only [Node.emptiedAll, writeNodes, writeNode_emptied n, writeNodes_emptiedAll ns]

end

/-- A document is written without the contents of its templates. -/
lemma serialize_emptied (document : Document) : document.emptied.serialize = document.serialize :=
  writeNodes_emptiedAll document.children {}

/-- The elements that are left alone are read one by one. -/
lemma leftAlone_reread (document : Document) :
    document.reread.leftAlone = document.leftAlone.map Node.reread :=
  Node.leftAloneIn_rereadAll document.children

/-- The mark and the stylesheet are no elements that are left alone. -/
lemma leftAloneIn_stampHead (marked : Bool) (stylesheet : Option String) (children : List Node) :
    leftAloneIn (stampHead marked stylesheet children) = leftAloneIn children := by
  have hmeta : Node.leftAlone generatorMeta = [] := by decide
  have hlink : ∀ href, Node.leftAlone (stylesheetLink href) = [] := fun href => by
    simp [stylesheetLink, Node.ofTag, Node.leftAlone, Node.leftAloneIn, Linker.skippedElements]
  have hline : ∀ ns n, Node.leftAlone n = [] → leftAloneIn (appendLine ns n) = leftAloneIn ns :=
    fun ns n hn => by simp [appendLine, leftAloneIn_append, Node.leftAloneIn, Node.leftAlone, hn]
  have hmarked : leftAloneIn (stampHead marked none children) = leftAloneIn children := by
    rw [stampHead_none]
    split
    · rfl
    · exact hline _ _ hmeta
  cases stylesheet with
  | none => exact hmarked
  | some href =>
    rw [stampHead_some]
    split
    · exact hmarked
    · rw [hline _ _ (hlink href), hmarked]

/-- Marking leaves the elements alone, if there is no head in them. -/
lemma leftAlone_markProcessed {document : Document} {stylesheet : Option String}
    (h : ∀ n ∈ (document.markProcessed stylesheet).leftAlone, tagsNamed "head" n = []) :
    (document.markProcessed stylesheet).leftAlone = document.leftAlone := by
  rcases eq_nil_or_exists_spot document with hnone | ⟨around, children, hspot, rfl⟩
  · rw [markProcessed_of_tagsNamedIn_eq_nil hnone]
  · rw [markProcessed_of_spot hspot] at h ⊢
    rcases hspot.leftAloneIn_eq (by decide) with ⟨before, after, heq⟩ | hmem
    · simp only [leftAlone, heq, leftAloneIn_stampHead]
    · obtain ⟨n, hn, htags⟩ := hmem
        (stampHead (isProcessed ⟨around children⟩) stylesheet children)
      exact absurd (h n hn) htags

namespace Tidy

variable {document : Document}

/-- The elements of a tidy page that are left alone hold no other elements. -/
lemma isTidySkipped (h : document.Tidy) {n : Node} (hn : n ∈ document.leftAlone) :
    n.IsTidySkipped := by
  obtain ⟨page, hpage, rfl⟩ := h
  have htidy := Html.Page.isTidy_iff.1 hpage
  have hcomments : ∀ contents : List String, leftAloneIn (contents.map .comment) = [] := by
    intro contents
    induction contents with
    | nil => rfl
    | cons content contents ih => simpa [Node.leftAloneIn, Node.leftAlone] using ih
  have hdoctype : leftAloneIn (page.doctype.toList.map .doctype) = [] := by
    cases page.doctype <;> simp [Node.leftAloneIn, Node.leftAlone]
  have hpart : ∀ name ∈ ["html", "head", "body"], ∀ attributes children,
      leftAloneIn [.element { name, attributes } none children] = leftAloneIn children := by
    intro name hname attributes children
    have hall : ∀ m ∈ ["html", "head", "body"], m ∉ Linker.skippedElements := by decide
    simp [Node.leftAloneIn, Node.leftAlone, hall name hname]
  simp only [leftAlone, Html.Page.document, Html.Page.htmlTag, Html.Page.headTag, Html.Page.bodyTag,
    leftAloneIn_append, hcomments, hdoctype, hpart "html" (by decide), hpart "head" (by decide),
    hpart "body" (by decide), List.nil_append, List.append_nil, List.mem_append] at hn
  rcases hn with (hn | hn) | hn
  · exact Node.isTidySkipped_of_mem_leftAloneIn page.head htidy.head hn
  · exact Node.isTidySkipped_of_mem_leftAloneIn page.afterHead htidy.afterHead hn
  · exact Node.isTidySkipped_of_mem_leftAloneIn page.body htidy.body hn

/-- Marking a page that comes out tidy leaves the elements alone. -/
lemma leftAlone_markProcessed {stylesheet : Option String}
    (h : (document.markProcessed stylesheet).Tidy) :
    (document.markProcessed stylesheet).leftAlone = document.leftAlone :=
  Document.leftAlone_markProcessed fun _ hn => (h.isTidySkipped hn).tagsNamed_eq_nil (by decide)

/-- The elements of a tidy page that are left alone are read again as they were if each of them
is. -/
lemma leftAlone_reread_eq_iff (h : document.Tidy) :
    document.reread.leftAlone = document.leftAlone ↔
      ∀ n ∈ document.leftAlone, n.isReadBack = true := by
  have hself := @List.map_inj_left _ _ document.leftAlone Node.reread id
  rw [List.map_id] at hself
  rw [leftAlone_reread, hself]
  exact forall₂_congr fun n hn => (h.isTidySkipped hn).reread_eq_iff

end Tidy

end Document

namespace Linker

/-- Linking leaves the elements alone. -/
lemma leftAlone_link (linker : Linker) (document : Document) :
    (linker.link document).value.1.leftAlone = document.leftAlone := by
  rw [link_eq_linkedOnce]
  refine Node.leftAloneIn_replaceTextsIn (fun text => ?_) document.children
  refine Node.leftAloneIn_eq_nil _ fun name hname => ?_
  exact tagsNamedIn_linkedNodes (by revert name; decide) linker _ text

end Linker

/-! ## Published pages -/

/-- A page is only published with delimiters. -/
lemma delimiters_ne_of_publish_eq_ok {r : Resolution} {options : PublishOptions} {source : String}
    {page : Published} (h : (publish r options source).value = .ok page) :
    r.delimiters.left ≠ "" ∧ r.delimiters.right ≠ "" := by
  have hfault : ∀ fault, Markers.ofDelimiters r.delimiters ≠ .error fault := by
    intro fault heq
    have hlinker : Linker.ofResolution r = .error fault := by rw [Linker.ofResolution, heq]; rfl
    rw [publish, hlinker] at h
    cases h
  constructor
  · intro hleft
    exact hfault .emptyLeft (by simp [Markers.ofDelimiters, hleft])
  · intro hright
    by_cases hleft : r.delimiters.left = ""
    · exact hfault .emptyLeft (by simp [Markers.ofDelimiters, hleft])
    · exact hfault .emptyRight (by simp [Markers.ofDelimiters, hleft, hright])

/-- A page that is not marked is published. -/
lemma exists_publish_eq_ok {r : Resolution} (hleft : r.delimiters.left ≠ "")
    (hright : r.delimiters.right ≠ "") (options : PublishOptions) {source : String}
    (h : (Document.parse source).isProcessed = false) :
    ∃ page, (publish r options source).value = .ok page := by
  unfold publish
  rw [Resolution.ofResolution_eq_ok hleft hright]
  simp only [h, Bool.false_and, Bool.false_eq_true, if_false]
  exact ⟨_, rfl⟩

/-- Publishing leaves the elements alone on its way to the tree that is written, and writes that
tree without the contents of its templates.  If the tree that is written is tidy, then it is read
from the page, but for the contents of templates and line feeds, and the elements that are left
alone are the same in the page exactly when no template has contents and no text area starts with a
line feed. -/
theorem leftAlone_published_iff {r : Resolution} {options : PublishOptions} {source : String}
    {page : Published} (h : (publish r options source).value = .ok page) :
    (r.linker.link (.parse source)).value.1.leftAlone = (Document.parse source).leftAlone ∧
      (r.published options source).emptied.serialize = page.html ∧
      ((r.published options source).Tidy →
        Document.parse page.html = (r.published options source).reread ∧
        (Document.parse page.html).leftAlone = (Document.parse source).leftAlone.map Node.reread ∧
        ((Document.parse page.html).leftAlone = (Document.parse source).leftAlone ↔
          ∀ n ∈ (Document.parse source).leftAlone, n.isReadBack = true)) := by
  obtain ⟨hleft, hright⟩ := delimiters_ne_of_publish_eq_ok h
  have hhtml := html_of_publish_eq_ok hleft hright h
  refine ⟨Linker.leftAlone_link _ _, (Document.serialize_emptied _).trans hhtml, fun htidy => ?_⟩
  have hread : Document.parse page.html = (r.published options source).reread := by
    rw [← hhtml]
    exact htidy.parse_serialize
  have hwritten : (r.published options source).leftAlone = (Document.parse source).leftAlone :=
    (Document.Tidy.leftAlone_markProcessed htidy).trans (Linker.leftAlone_link _ _)
  rw [hread, ← hwritten]
  exact ⟨rfl, Document.leftAlone_reread _, htidy.leftAlone_reread_eq_iff⟩

/-- A page with elements of all five names that are left alone, and a marker outside of them and in
one. -/
def keptSource : String :=
  "<title>A & B</title><style>p > b</style><p>&lt;&lt;x>><textarea><<x>></textarea>" ++
    "<template></template><script>a < b</script>"

/-- The page that is read, with the given nodes in its head after the style and in its body before
the text area. -/
def keptPage (inHead inBody : List Node) : Html.Page where
  head := .ofTag "title" [] [.text "A & B"] :: .ofTag "style" [] [.text "p > b"] :: inHead
  body :=
    [.ofTag "p" [] (inBody ++ [.ofTag "textarea" [] [.text "<<x>>"],
      .element { name := "template" } (some []) [], .ofTag "script" [] [.text "a < b"]])]

/-- All five elements of that page are read from what is published as they were read from the
source. -/
theorem leftAlone_published_iff_kept :
    ∃ page, (publish {} {} keptSource).value = .ok page ∧
      (Document.parse keptSource).leftAlone.length = 5 ∧
      (Document.parse page.html).leftAlone = (Document.parse keptSource).leftAlone := by
  have hsource : Document.parse keptSource = (keptPage [] [.text "<<x>>"]).document := by
    decide +kernel
  have htidy : (({} : Resolution).published {} keptSource).Tidy := by
    refine ⟨keptPage [Document.generatorMeta, .text "\n"]
      [.ofTag "a" [("name", "x")] [.ofTag "span" [("class", "lpdefine")] [.text "(x)"]]],
      by decide +kernel, ?_⟩
    rw [Resolution.published, hsource]
    decide +kernel
  have hnew : (Document.parse keptSource).isProcessed = false := by
    rw [hsource]
    decide +kernel
  obtain ⟨page, hpage⟩ : ∃ page, (publish {} {} keptSource).value = .ok page :=
    exists_publish_eq_ok (by decide) (by decide) {} hnew
  refine ⟨page, hpage, by rw [hsource]; decide +kernel,
    ((leftAlone_published_iff hpage).2.2 htidy).2.2.2 ?_⟩
  rw [hsource]
  decide +kernel

/-- A page with a template that holds text. -/
def templateSource : String :=
  "<html><head></head><body><template>x</template></body></html>"

/-- The contents of a template are lost when its page is published. -/
theorem leftAlone_published_ne_template :
    ∃ page, (publish {} {} templateSource).value = .ok page ∧
      (Document.parse templateSource).leftAlone =
        [.element { name := "template" } (some [.text "x"]) []] ∧
      (Document.parse page.html).leftAlone = [.element { name := "template" } (some []) []] := by
  have hhtml : (publish {} {} templateSource).value.toOption.map (·.html) =
      some ("<html><head><meta name=\"generator\" content=\"nanolp-pub\">\n</head><body>" ++
        "<template></template></body></html>") := by decide +kernel
  have hread :
      (Document.parse ("<html><head><meta name=\"generator\" content=\"nanolp-pub\">\n</head>" ++
      "<body><template></template></body></html>")).leftAlone =
        [.element { name := "template" } (some []) []] := by decide +kernel
  obtain ⟨report, hpage⟩ := exists_eq_ok_of_html hhtml
  exact ⟨_, hpage, by decide +kernel, hread⟩

end LiterateLinks
