import Mathlib.Tactic.Common
import LiterateLinks.Document.Stamp
import LiterateLinks.Proofs.Link.Walk

/-!
# Stamping a document

Marking a document changes the children of its first head and nothing else.  `Node.Spot` describes
the surroundings of the first element with a given name, as a function from its children to the
whole list of nodes.  Everything that a change of these children does is read off from the
surroundings: where the change takes place, which tags there are afterwards, which texts are shown.

The main results are that marking a document a second time adds nothing,
`Document.markProcessed_markProcessed`, and that the only text it adds is a line break,
`Document.mem_shownTextsIn_markProcessed`.
-/

namespace LiterateLinks

namespace Node

/-! ## The surroundings of an element -/

/-- The tags of siblings are collected one by one. -/
lemma tagsNamedIn_eq_flatMap (name : String) (ns : List Node) :
    tagsNamedIn name ns = ns.flatMap (tagsNamed name) := by
  induction ns with
  | nil => simp [tagsNamedIn]
  | cons n ns ih => simp [tagsNamedIn, ih]

/-- The tags of siblings come one after the other. -/
lemma tagsNamedIn_append (name : String) (ms ns : List Node) :
    tagsNamedIn name (ms ++ ns) = tagsNamedIn name ms ++ tagsNamedIn name ns := by
  simp [tagsNamedIn_eq_flatMap]

/-- The surroundings of the first element with the given name: what the nodes are, as a function of
the children of that element. -/
inductive Spot (name : String) : (List Node → List Node) → Prop where
  | here {tag : Tag} {contents : Option (List Node)} {before after : List Node} :
      tagsNamedIn name before = [] → tag.name = name →
        Spot name fun children => before ++ .element tag contents children :: after
  | inside {tag : Tag} {contents : Option (List Node)} {before after : List Node}
      {around : List Node → List Node} :
      tagsNamedIn name before = [] → tag.name ≠ name → Spot name around →
        Spot name fun children => before ++ .element tag contents (around children) :: after

mutual

/-- Nodes with an element of the given name at or below the first of them have a first one. -/
lemma exists_spot_cons {name : String} {before : List Node}
    (hbefore : tagsNamedIn name before = []) :
    ∀ (n : Node) (after : List Node), tagsNamed name n ≠ [] →
      ∃ around children, Spot name around ∧ before ++ n :: after = around children
  | .text content, after, h => absurd rfl h
  | .doctype label, after, h => absurd rfl h
  | .comment content, after, h => absurd rfl h
  | .element tag contents children, after, h => by
    by_cases htag : tag.name = name
    · exact ⟨_, children, .here hbefore htag, rfl⟩
    · have hchildren : tagsNamedIn name children ≠ [] := by simpa [tagsNamed, htag] using h
      obtain ⟨around, inner, hspot, heq⟩ := @exists_spot_append name [] rfl children hchildren
      rw [List.nil_append] at heq
      exact ⟨_, inner, .inside hbefore htag hspot, by rw [heq]⟩

/-- Nodes with an element of the given name have a first one. -/
lemma exists_spot_append {name : String} {before : List Node}
    (hbefore : tagsNamedIn name before = []) :
    ∀ nodes : List Node, tagsNamedIn name nodes ≠ [] →
      ∃ around children, Spot name around ∧ before ++ nodes = around children
  | [], h => absurd rfl h
  | n :: ns, h => by
    by_cases hn : tagsNamed name n = []
    · have hbefore' : tagsNamedIn name (before ++ [n]) = [] := by
        simp [tagsNamedIn_append, tagsNamedIn, hbefore, hn]
      have hns : tagsNamedIn name ns ≠ [] := by simpa [tagsNamedIn, hn] using h
      obtain ⟨around, children, hspot, heq⟩ := exists_spot_append hbefore' ns hns
      exact ⟨around, children, hspot, by simpa using heq⟩
    · exact exists_spot_cons hbefore n ns hn

end

/-- Nodes with an element of the given name have a first one. -/
lemma exists_spot {name : String} {nodes : List Node} (h : tagsNamedIn name nodes ≠ []) :
    ∃ around children, Spot name around ∧ nodes = around children := by
  obtain ⟨around, children, hspot, heq⟩ := @exists_spot_append name [] rfl nodes h
  exact ⟨around, children, hspot, heq⟩

mutual

/-- Nothing is changed at or below a node without an element of the given name. -/
lemma changeNamed?_eq_none {name : String} (change : List Node → List Node) :
    ∀ n : Node, tagsNamed name n = [] → changeNamed? name change n = none
  | .text content, h => by simp [changeNamed?]
  | .doctype label, h => by simp [changeNamed?]
  | .comment content, h => by simp [changeNamed?]
  | .element tag contents children, h => by
    by_cases htag : tag.name = name
    · simp [tagsNamed, htag] at h
    · have hchildren : tagsNamedIn name children = [] := by simpa [tagsNamed, htag] using h
      simp [changeNamed?, htag, changeNamedIn?_eq_none change children hchildren]

/-- Nothing is changed in nodes without an element of the given name. -/
lemma changeNamedIn?_eq_none {name : String} (change : List Node → List Node) :
    ∀ nodes : List Node, tagsNamedIn name nodes = [] → changeNamedIn? name change nodes = none
  | [], h => by simp [changeNamedIn?]
  | n :: ns, h => by
    obtain ⟨hn, hns⟩ : tagsNamed name n = [] ∧ tagsNamedIn name ns = [] := by
      simpa [tagsNamedIn] using h
    simp [changeNamedIn?, changeNamed?_eq_none change n hn, changeNamedIn?_eq_none change ns hns]

end

/-- A change passes over nodes without an element of the given name. -/
lemma changeNamedIn?_append {name : String} {before : List Node}
    (hbefore : tagsNamedIn name before = []) (change : List Node → List Node) (nodes : List Node) :
    changeNamedIn? name change (before ++ nodes) =
      (changeNamedIn? name change nodes).map (before ++ ·) := by
  induction before with
  | nil => simp
  | cons b bs ih =>
    obtain ⟨hb, hbs⟩ : tagsNamed name b = [] ∧ tagsNamedIn name bs = [] := by
      simpa [tagsNamedIn] using hbefore
    simp [changeNamedIn?, changeNamed?_eq_none change b hb, ih hbs, Function.comp_def]

namespace Spot

variable {name : String} {around : List Node → List Node}

/-- A change happens at the first element of the given name. -/
lemma changeNamedIn?_eq (h : Spot name around) (change : List Node → List Node)
    (children : List Node) :
    changeNamedIn? name change (around children) = some (around (change children)) := by
  induction h with
  | here hbefore htag =>
    simp [changeNamedIn?_append hbefore, changeNamedIn?, changeNamed?, htag]
  | inside hbefore htag _ ih =>
    simp [changeNamedIn?_append hbefore, changeNamedIn?, changeNamed?, htag, ih]

/-- The surroundings determine the children of the element. -/
lemma injective (h : Spot name around) : Function.Injective around := by
  induction h with
  | here => exact fun x y hxy => by simpa using hxy
  | inside _ _ _ ih => exact fun x y hxy => ih (by simpa using hxy)

/-- The tags of the children stand among tags that do not depend on the children. -/
lemma exists_tagsNamedIn_eq (h : Spot name around) (other : String) :
    ∃ before after, ∀ children,
      tagsNamedIn other (around children) = before ++ tagsNamedIn other children ++ after := by
  induction h with
  | @here tag contents before after _ _ =>
    refine ⟨tagsNamedIn other before ++ if tag.name = other then [tag] else [],
      tagsNamedIn other after, fun children => ?_⟩
    by_cases htag : tag.name = other <;> simp [tagsNamedIn_append, tagsNamedIn, tagsNamed, htag]
  | @inside tag contents before after around _ _ _ ih =>
    obtain ⟨left, right, hih⟩ := ih
    refine ⟨tagsNamedIn other before ++ (if tag.name = other then [tag] else []) ++ left,
      right ++ tagsNamedIn other after, fun children => ?_⟩
    by_cases htag : tag.name = other <;>
      simp [tagsNamedIn_append, tagsNamedIn, tagsNamed, htag, hih]

/-- The shown texts of the children stand among texts that do not depend on the children, or the
children are not shown. -/
lemma exists_shownTextsIn_eq (h : Spot name around) :
    (∃ before after, ∀ children,
      shownTextsIn (around children) = before ++ shownTextsIn children ++ after) ∨
        ∃ shown, ∀ children, shownTextsIn (around children) = shown := by
  induction h with
  | @here tag contents before after _ _ =>
    by_cases hskip : tag.name ∈ Linker.skippedElements
    · refine .inr ⟨shownTextsIn before ++ shownTextsIn after, fun children => ?_⟩
      simp [shownTextsIn_append, shownTextsIn, shownTexts, hskip]
    · refine .inl ⟨shownTextsIn before, shownTextsIn after, fun children => ?_⟩
      simp [shownTextsIn_append, shownTextsIn, shownTexts, hskip]
  | @inside tag contents before after around _ _ _ ih =>
    by_cases hskip : tag.name ∈ Linker.skippedElements
    · refine .inr ⟨shownTextsIn before ++ shownTextsIn after, fun children => ?_⟩
      simp [shownTextsIn_append, shownTextsIn, shownTexts, hskip]
    · rcases ih with ⟨left, right, hih⟩ | ⟨shown, hih⟩
      · refine .inl ⟨shownTextsIn before ++ left, right ++ shownTextsIn after, fun children => ?_⟩
        simp [shownTextsIn_append, shownTextsIn, shownTexts, hskip, hih]
      · refine .inr ⟨shownTextsIn before ++ shown ++ shownTextsIn after, fun children => ?_⟩
        simp [shownTextsIn_append, shownTextsIn, shownTexts, hskip, hih]

end Spot

/-! ## Replaced texts -/

section Replace

open Linker (skippedElements)

variable {name : String} {f : String → List Node}

mutual

/-- Replacing texts by nodes without elements of the given name keeps the tags of that name, at and
below one node. -/
lemma tagsNamedIn_replaceTexts (hf : ∀ text, tagsNamedIn name (f text) = []) :
    ∀ n : Node, tagsNamedIn name (replaceTexts f n) = tagsNamed name n
  | .text content => by simp [replaceTexts, tagsNamed, hf]
  | .doctype label => by simp [replaceTexts, tagsNamed, tagsNamedIn]
  | .comment content => by simp [replaceTexts, tagsNamed, tagsNamedIn]
  | .element tag contents children => by
    by_cases h : tag.name ∈ skippedElements
    · simp [replaceTexts, tagsNamedIn, h]
    · simp [replaceTexts, tagsNamed, tagsNamedIn, h, tagsNamedIn_replaceTextsIn hf children]

/-- Replacing texts by nodes without elements of the given name keeps the tags of that name. -/
lemma tagsNamedIn_replaceTextsIn (hf : ∀ text, tagsNamedIn name (f text) = []) :
    ∀ nodes : List Node, tagsNamedIn name (replaceTextsIn f nodes) = tagsNamedIn name nodes
  | [] => by simp [replaceTextsIn]
  | n :: ns => by
    rw [replaceTextsIn, tagsNamedIn_append, tagsNamedIn_replaceTexts hf n,
      tagsNamedIn_replaceTextsIn hf ns, tagsNamedIn]

end

/-- Replacing texts around the first element of a name: its own texts are replaced as well, or all
of it is kept because it is below a skipped element. -/
lemma Spot.exists_replaceTextsIn_eq {around : List Node → List Node} (h : Spot name around)
    (hname : name ∉ skippedElements) (hf : ∀ text, tagsNamedIn name (f text) = []) :
    ∃ around', Spot name around' ∧
      ((∀ children, replaceTextsIn f (around children) = around' (replaceTextsIn f children)) ∨
        ∀ children, replaceTextsIn f (around children) = around' children) := by
  induction h with
  | @here tag contents before after hbefore htag =>
    have hskip : tag.name ∉ skippedElements := htag ▸ hname
    refine ⟨_,
      @Spot.here name tag contents (replaceTextsIn f before) (replaceTextsIn f after) ?_ htag,
      .inl fun children => ?_⟩
    · rw [tagsNamedIn_replaceTextsIn hf, hbefore]
    · simp [replaceTextsIn_append, replaceTextsIn, replaceTexts, hskip]
  | @inside tag contents before after around hbefore htag hspot ih =>
    have hbefore' : tagsNamedIn name (replaceTextsIn f before) = [] := by
      rw [tagsNamedIn_replaceTextsIn hf, hbefore]
    by_cases hskip : tag.name ∈ skippedElements
    · refine ⟨_, @Spot.inside name tag contents _ (replaceTextsIn f after) _ hbefore' htag hspot,
        .inr fun children => ?_⟩
      simp [replaceTextsIn_append, replaceTextsIn, replaceTexts, hskip]
    · obtain ⟨around', hspot', hreplace⟩ := ih
      refine ⟨_, @Spot.inside name tag contents _ (replaceTextsIn f after) _ hbefore' htag hspot',
        hreplace.imp (fun h children => ?_) fun h children => ?_⟩ <;>
        simp [replaceTextsIn_append, replaceTextsIn, replaceTexts, hskip, h]

end Replace

end Node

namespace Document

open Node (Spot tagsNamedIn shownTextsIn replaceTextsIn)

/-! ## The head of a document -/

/-- Marking a document stamps its first head. -/
lemma markProcessed_of_spot {around : List Node → List Node} (h : Spot "head" around)
    (children : List Node) (stylesheet : Option String) :
    (⟨around children⟩ : Document).markProcessed stylesheet =
      ⟨around (stampHead (isProcessed ⟨around children⟩) stylesheet children)⟩ := by
  simp [markProcessed, h.changeNamedIn?_eq]

/-- A document without a head is not marked. -/
lemma markProcessed_of_tagsNamedIn_eq_nil {document : Document}
    (h : tagsNamedIn "head" document.children = []) (stylesheet : Option String) :
    document.markProcessed stylesheet = document := by
  simp [markProcessed, Node.changeNamedIn?_eq_none _ _ h]

/-- The document has no head, or a first one. -/
lemma eq_nil_or_exists_spot (document : Document) :
    tagsNamedIn "head" document.children = [] ∨
      ∃ around children, Spot "head" around ∧ document = ⟨around children⟩ := by
  by_cases h : tagsNamedIn "head" document.children = []
  · exact .inl h
  · obtain ⟨around, children, hspot, heq⟩ := Node.exists_spot h
    exact .inr ⟨around, children, hspot, by rw [← heq]⟩

/-- Without a stylesheet only the mark is added. -/
lemma stampHead_none (marked : Bool) (children : List Node) :
    stampHead marked none children =
      if marked then children else appendLine children generatorMeta :=
  rfl

/-- The reference to the stylesheet comes after the mark. -/
lemma stampHead_some (marked : Bool) (href : String) (children : List Node) :
    stampHead marked (some href) children =
      if refersTo (stampHead marked none children) href then stampHead marked none children
      else appendLine (stampHead marked none children) (stylesheetLink href) :=
  rfl

/-- A stamp adds nodes at the end, and the only text among them is a line break. -/
lemma exists_stampHead_eq (marked : Bool) (stylesheet : Option String) (children : List Node) :
    ∃ added, stampHead marked stylesheet children = children ++ added ∧
      ∀ text ∈ shownTextsIn added, text = "\n" := by
  have hmark : ∃ added, stampHead marked none children = children ++ added ∧
      ∀ text ∈ shownTextsIn added, text = "\n" := by
    rw [stampHead_none]
    split
    · exact ⟨[], by simp, by simp [shownTextsIn]⟩
    · exact ⟨_, rfl, by simp [shownTextsIn, generatorMeta, Node.ofTag, Node.shownTexts]⟩
  cases stylesheet with
  | none => exact hmark
  | some href =>
    obtain ⟨added, heq, hadded⟩ := hmark
    rw [stampHead_some]
    split
    · exact ⟨added, heq, hadded⟩
    · refine ⟨added ++ [stylesheetLink href, .text "\n"], by simp [appendLine, heq], ?_⟩
      intro text htext
      rw [Node.shownTextsIn_append, List.mem_append] at htext
      rcases htext with htext | htext
      · exact hadded text htext
      · simpa [shownTextsIn, stylesheetLink, Node.ofTag, Node.shownTexts] using htext

/-- A stamp that finds the mark and the reference adds nothing, and no other does. -/
lemma stampHead_eq_self_iff {marked : Bool} {stylesheet : Option String} {children : List Node} :
    stampHead marked stylesheet children = children ↔
      marked = true ∧ ∀ href, stylesheet = some href → refersTo children href = true := by
  have hmark : stampHead marked none children = children ↔ marked = true := by
    rw [stampHead_none]
    cases marked <;> simp [appendLine]
  cases stylesheet with
  | none => simpa using hmark
  | some href =>
    obtain ⟨added, heq, -⟩ := exists_stampHead_eq marked none children
    rw [stampHead_some, heq]
    constructor
    · intro h
      split at h
      · next hrefers =>
        rw [h] at heq hrefers
        refine ⟨hmark.1 heq, ?_⟩
        rintro _ ⟨⟩
        exact hrefers
      · simp [appendLine] at h
    · rintro ⟨hmarked, hrefers⟩
      obtain rfl : added = [] := by simpa [hmark.2 hmarked] using heq.symm
      simp [hrefers href rfl]

/-- A stamped head refers to the stylesheet. -/
lemma refersTo_stampHead (marked : Bool) (href : String) (children : List Node) :
    refersTo (stampHead marked (some href) children) href = true := by
  rw [stampHead_some]
  split
  · assumption
  · simp [refersTo, appendLine, Node.tagsNamedIn_append, tagsNamedIn, Node.tagsNamed,
      stylesheetLink, Node.ofTag, Tag.get?]

/-- A head that is stamped with the mark holds the tag of the mark. -/
lemma exists_mem_tagsNamedIn_stampHead (stylesheet : Option String) (children : List Node) :
    ∃ tag ∈ tagsNamedIn "meta" (stampHead false stylesheet children),
      isGeneratorMeta tag = true := by
  have hmark : ∃ tag ∈ tagsNamedIn "meta" (stampHead false none children),
      isGeneratorMeta tag = true := by
    refine ⟨⟨"meta", [⟨"name", "generator", .plain⟩, ⟨"content", generator, .plain⟩], .html⟩, ?_,
      by decide⟩
    simp [stampHead_none, appendLine, Node.tagsNamedIn_append, tagsNamedIn, Node.tagsNamed,
      generatorMeta, Node.ofTag]
  cases stylesheet with
  | none => exact hmark
  | some href =>
    rw [stampHead_some]
    split
    · exact hmark
    · obtain ⟨tag, htag, hgenerator⟩ := hmark
      refine ⟨tag, ?_, hgenerator⟩
      rw [appendLine, Node.tagsNamedIn_append]
      exact List.mem_append_left _ htag

/-- A document with a head carries the mark once it is stamped. -/
lemma isProcessed_stampHead {around : List Node → List Node} (h : Spot "head" around)
    (children : List Node) (stylesheet : Option String) :
    isProcessed ⟨around (stampHead (isProcessed ⟨around children⟩) stylesheet children)⟩ =
      true := by
  obtain ⟨before, after, htags⟩ := h.exists_tagsNamedIn_eq "meta"
  cases hmarked : isProcessed ⟨around children⟩ with
  | true =>
    obtain ⟨added, heq, -⟩ := exists_stampHead_eq true stylesheet children
    rw [isProcessed, List.any_eq_true] at hmarked ⊢
    obtain ⟨tag, htag, hgenerator⟩ := hmarked
    refine ⟨tag, ?_, hgenerator⟩
    rw [htags] at htag
    rw [htags, heq, Node.tagsNamedIn_append]
    simp only [List.mem_append] at htag ⊢
    tauto
  | false =>
    obtain ⟨tag, htag, hgenerator⟩ := exists_mem_tagsNamedIn_stampHead stylesheet children
    rw [isProcessed, List.any_eq_true]
    refine ⟨tag, ?_, hgenerator⟩
    rw [htags]
    simp [htag]

/-! ## Marked documents -/

/-- Marking a document a second time adds nothing. -/
lemma markProcessed_markProcessed (document : Document) (stylesheet : Option String) :
    (document.markProcessed stylesheet).markProcessed stylesheet =
      document.markProcessed stylesheet := by
  rcases document.eq_nil_or_exists_spot with hnil | ⟨around, children, hspot, rfl⟩
  · rw [markProcessed_of_tagsNamedIn_eq_nil hnil, markProcessed_of_tagsNamedIn_eq_nil hnil]
  · rw [markProcessed_of_spot hspot, markProcessed_of_spot hspot, isProcessed_stampHead hspot]
    congr 2
    rw [stampHead_eq_self_iff]
    refine ⟨rfl, ?_⟩
    rintro href rfl
    exact refersTo_stampHead _ href children

/-- The only text that marking a document adds is a line break. -/
lemma mem_shownTextsIn_markProcessed {document : Document} {stylesheet : Option String}
    {text : String} (h : text ∈ shownTextsIn (document.markProcessed stylesheet).children) :
    text ∈ shownTextsIn document.children ∨ text = "\n" := by
  rcases document.eq_nil_or_exists_spot with hnil | ⟨around, children, hspot, rfl⟩
  · rw [markProcessed_of_tagsNamedIn_eq_nil hnil] at h
    exact .inl h
  · obtain ⟨added, heq, hadded⟩ :=
      exists_stampHead_eq (isProcessed ⟨around children⟩) stylesheet children
    rw [markProcessed_of_spot hspot, heq] at h
    rcases hspot.exists_shownTextsIn_eq with ⟨before, after, hshown⟩ | ⟨shown, hshown⟩
    · simp only [hshown, Node.shownTextsIn_append, List.mem_append] at h ⊢
      rcases h with (h | h | h) | h
      · exact .inl (.inl (.inl h))
      · exact .inl (.inl (.inr h))
      · exact .inr (hadded text h)
      · exact .inl (.inr h)
    · simp only [hshown] at h ⊢
      exact .inl h

/-- Replacing texts by nodes without elements of the head keeps a marked document marked. -/
lemma markProcessed_replaceTextsIn {document : Document} {stylesheet : Option String}
    {f : String → List Node}
    (hf : ∀ name ∈ ["head", "meta", "link"], ∀ text, tagsNamedIn name (f text) = [])
    (h : document.markProcessed stylesheet = document) :
    (⟨replaceTextsIn f document.children⟩ : Document).markProcessed stylesheet =
      ⟨replaceTextsIn f document.children⟩ := by
  have hhead := hf "head" (by simp)
  have hprocessed : isProcessed ⟨replaceTextsIn f document.children⟩ = document.isProcessed := by
    rw [isProcessed, isProcessed, Node.tagsNamedIn_replaceTextsIn (hf "meta" (by simp))]
  have hrefers (children : List Node) (href : String) :
      refersTo (replaceTextsIn f children) href = refersTo children href := by
    rw [refersTo, refersTo, Node.tagsNamedIn_replaceTextsIn (hf "link" (by simp))]
  rcases document.eq_nil_or_exists_spot with hnil | ⟨around, children, hspot, rfl⟩
  · refine markProcessed_of_tagsNamedIn_eq_nil ?_ stylesheet
    rw [Node.tagsNamedIn_replaceTextsIn hhead, hnil]
  · rw [markProcessed_of_spot hspot, Document.mk.injEq] at h
    obtain ⟨hmarked, hstylesheet⟩ := stampHead_eq_self_iff.1 (hspot.injective h)
    obtain ⟨around', hspot', hreplace⟩ := hspot.exists_replaceTextsIn_eq (by decide) hhead
    rw [hmarked] at hprocessed
    rcases hreplace with hreplace | hreplace
    · simp only [hreplace] at hprocessed ⊢
      rw [markProcessed_of_spot hspot', hprocessed, stampHead_eq_self_iff.2]
      exact ⟨rfl, fun href hhref => by rw [hrefers, hstylesheet href hhref]⟩
    · simp only [hreplace] at hprocessed ⊢
      rw [markProcessed_of_spot hspot', hprocessed, stampHead_eq_self_iff.2 ⟨rfl, hstylesheet⟩]

end Document

end LiterateLinks
