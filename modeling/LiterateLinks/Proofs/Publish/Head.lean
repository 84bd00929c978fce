import LiterateLinks.Proofs.Publish.Mark

/-!
# What stands in the head

A page is refused because of a mark and gets a reference to its stylesheet unless it has one.  Both
questions are about the head, and both are answered by a search for elements.  This file compares
what the searches look at with what stands in the head.

`Node.Occurs` says that an element stands somewhere in a tree, and the searches find exactly the
elements that occur (`Node.mem_tagsNamedIn_iff`).  A document is its head and the rest of it, which
is the document with its head emptied (`Document.headless`).

The search for the mark goes through the whole document, so a mark outside the head counts as one in
the head.  The search for the stylesheet stays in the head and looks at references only, not at what
they are for: a `link` that loads the stylesheet ahead of time, or shows it as an icon, keeps the
reference from being added.
-/

namespace LiterateLinks

namespace Node

/-! ## Elements of a tree -/

/-- An element with this tag is one of the nodes or stands below one of them. -/
inductive Occurs (tag : Tag) : List Node → Prop where
  | here {nodes : List Node} {contents : Option (List Node)} {children : List Node} :
      .element tag contents children ∈ nodes → Occurs tag nodes
  | inside {nodes : List Node} {outer : Tag} {contents : Option (List Node)}
      {children : List Node} :
      .element outer contents children ∈ nodes → Occurs tag children → Occurs tag nodes

/-- More nodes hold more elements. -/
lemma Occurs.mono {tag : Tag} {ms ns : List Node} (h : Occurs tag ms) (hsub : ms ⊆ ns) :
    Occurs tag ns := by
  cases h with
  | here hmem => exact .here (hsub hmem)
  | inside hmem hchildren => exact .inside (hsub hmem) hchildren

mutual

/-- What the search finds at or below a node has the name and occurs there. -/
lemma occurs_of_mem_tagsNamed {name : String} {tag : Tag} :
    ∀ n : Node, tag ∈ tagsNamed name n → tag.name = name ∧ Occurs tag [n]
  | .text content, h => by simp [tagsNamed] at h
  | .doctype label, h => by simp [tagsNamed] at h
  | .comment content, h => by simp [tagsNamed] at h
  | .element outer contents children, h => by
    have hcases : (tag = outer ∧ outer.name = name) ∨ tag ∈ tagsNamedIn name children := by
      unfold tagsNamed at h
      split at h
      · next hname => exact (List.mem_cons.1 h).imp_left fun heq => ⟨heq, hname⟩
      · exact .inr h
    rcases hcases with ⟨rfl, hname⟩ | hchildren
    · exact ⟨hname, .here (List.mem_singleton_self _)⟩
    · obtain ⟨hname, hoccurs⟩ := occurs_of_mem_tagsNamedIn children hchildren
      exact ⟨hname, .inside (List.mem_singleton_self _) hoccurs⟩

/-- What the search finds in a list of nodes has the name and occurs there. -/
lemma occurs_of_mem_tagsNamedIn {name : String} {tag : Tag} :
    ∀ nodes : List Node, tag ∈ tagsNamedIn name nodes → tag.name = name ∧ Occurs tag nodes
  | [], h => by simp [tagsNamedIn] at h
  | n :: ns, h => by
    rw [tagsNamedIn, List.mem_append] at h
    rcases h with hfirst | hrest
    · obtain ⟨hname, hoccurs⟩ := occurs_of_mem_tagsNamed n hfirst
      exact ⟨hname, hoccurs.mono (by simp)⟩
    · obtain ⟨hname, hoccurs⟩ := occurs_of_mem_tagsNamedIn ns hrest
      exact ⟨hname, hoccurs.mono (List.subset_cons_self _ _)⟩

end

/-- The search finds the elements of the name that occur, and nothing else. -/
lemma mem_tagsNamedIn_iff {name : String} {tag : Tag} {nodes : List Node} :
    tag ∈ tagsNamedIn name nodes ↔ tag.name = name ∧ Occurs tag nodes := by
  constructor
  · exact occurs_of_mem_tagsNamedIn nodes
  · rintro ⟨hname, hoccurs⟩
    induction hoccurs with
    | here hmem =>
      rw [tagsNamedIn_eq_flatMap, List.mem_flatMap]
      exact ⟨_, hmem, by simp [tagsNamed, hname]⟩
    | inside hmem _ ih =>
      rw [tagsNamedIn_eq_flatMap, List.mem_flatMap]
      refine ⟨_, hmem, ?_⟩
      unfold tagsNamed
      split
      · exact List.mem_cons_of_mem _ ih
      · exact ih

/-- A search for elements with a certain property succeeds when one occurs. -/
lemma any_tagsNamedIn_iff {name : String} {p : Tag → Bool} {nodes : List Node} :
    (tagsNamedIn name nodes).any p = true ↔
      ∃ tag, Occurs tag nodes ∧ tag.name = name ∧ p tag = true := by
  simp only [List.any_eq_true, mem_tagsNamedIn_iff]
  constructor
  · rintro ⟨tag, ⟨hname, hoccurs⟩, hp⟩
    exact ⟨tag, hoccurs, hname, hp⟩
  · rintro ⟨tag, hoccurs, hname, hp⟩
    exact ⟨tag, ⟨hname, hoccurs⟩, hp⟩

/-- The mark stands among or below the nodes: a `meta` element that names the generator. -/
def CarriesMark (nodes : List Node) : Prop :=
  ∃ tag, Occurs tag nodes ∧ tag.name = "meta" ∧
    tag.get? "name" = some "generator" ∧ tag.get? "content" = some "nanolp-pub"

/-- A `link` element with this reference stands among or below the nodes. -/
def RefersTo (nodes : List Node) (href : String) : Prop :=
  ∃ tag, Occurs tag nodes ∧ tag.name = "link" ∧ tag.get? "href" = some href

/-- A `link` element that refers to this stylesheet, as a stylesheet, stands among or below the
nodes. -/
def LinksStylesheet (nodes : List Node) (href : String) : Prop :=
  ∃ tag, Occurs tag nodes ∧ tag.name = "link" ∧
    tag.get? "rel" = some "stylesheet" ∧ tag.get? "href" = some href

/-- The mark is found by looking through all `meta` elements. -/
lemma carriesMark_iff {nodes : List Node} :
    CarriesMark nodes ↔ (tagsNamedIn "meta" nodes).any Document.isGeneratorMeta = true := by
  rw [any_tagsNamedIn_iff, CarriesMark]
  simp [Document.isGeneratorMeta, Document.generator]

/-- A reference is found by looking through all `link` elements. -/
lemma refersTo_iff {nodes : List Node} {href : String} :
    RefersTo nodes href ↔ Document.refersTo nodes href = true := by
  rw [Document.refersTo, any_tagsNamedIn_iff, RefersTo]
  simp

/-- Whether a `link` element refers to a stylesheet is seen from two of its attributes. -/
lemma linksStylesheet_iff {nodes : List Node} {href : String} :
    LinksStylesheet nodes href ↔ (tagsNamedIn "link" nodes).any
      (fun tag => tag.get? "rel" == some "stylesheet" && tag.get? "href" == some href) = true := by
  rw [any_tagsNamedIn_iff, LinksStylesheet]
  simp

/-- Whether nodes carry the mark is decided by a search. -/
instance (nodes : List Node) : Decidable (CarriesMark nodes) :=
  decidable_of_iff _ carriesMark_iff.symm

/-- Whether nodes refer to a stylesheet is decided by a search. -/
instance (nodes : List Node) (href : String) : Decidable (LinksStylesheet nodes href) :=
  decidable_of_iff _ linksStylesheet_iff.symm

end Node

namespace Document

open Node (Spot Occurs tagsNamedIn CarriesMark RefersTo LinksStylesheet)

/-! ## The head and the rest -/

/-- What stands in the first head of the document, nothing if there is none. -/
def headChildren (document : Document) : List Node :=
  match Node.findNamedIn? "head" document.children with
  | some (.element _ _ children) => children
  | _ => []

/-- The document with its first head emptied. -/
def headless (document : Document) : Document :=
  ⟨(Node.changeNamedIn? "head" (fun _ => []) document.children).getD document.children⟩

/-- The children of a head in its surroundings. -/
lemma headChildren_of_spot {around : List Node → List Node} (h : Spot "head" around)
    (children : List Node) : headChildren ⟨around children⟩ = children := by
  obtain ⟨tag, contents, hfound⟩ := h.exists_findNamedIn?_eq
  simp only [headChildren, hfound]

/-- Emptying a head keeps its surroundings. -/
lemma headless_of_spot {around : List Node → List Node} (h : Spot "head" around)
    (children : List Node) : headless ⟨around children⟩ = ⟨around []⟩ := by
  rw [headless, h.changeNamedIn?_eq, Option.getD_some]

/-- A document has a head exactly when the search for one finds it. -/
lemma exists_spot_of_occurs {document : Document}
    (h : ∃ tag, tag.name = "head" ∧ Occurs tag document.children) :
    ∃ around children, Spot "head" around ∧ document = ⟨around children⟩ := by
  obtain ⟨tag, htag⟩ := h
  refine document.eq_nil_or_exists_spot.resolve_left fun hnil => ?_
  have hmem := Node.mem_tagsNamedIn_iff.2 htag
  rw [hnil] at hmem
  cases hmem

/-- The tags of a document are those in its head and those of the rest. -/
lemma mem_tagsNamedIn_iff_head_or_headless (document : Document) (name : String) (tag : Tag) :
    tag ∈ tagsNamedIn name document.children ↔
      tag ∈ tagsNamedIn name document.headChildren ∨
        tag ∈ tagsNamedIn name document.headless.children := by
  rcases document.eq_nil_or_exists_spot with hnil | ⟨around, children, hspot, rfl⟩
  · -- without a head all of the document is the rest
    have hhead : document.headChildren = [] := by
      rw [headChildren, Node.findNamedIn?_eq_none _ hnil]
    have hrest : document.headless = document := by
      rw [headless, Node.changeNamedIn?_eq_none _ _ hnil, Option.getD_none]
    rw [hhead, hrest]
    simp [tagsNamedIn]
  · obtain ⟨before, after, htags⟩ := hspot.exists_tagsNamedIn_eq name
    have hempty : tagsNamedIn name [] = [] := rfl
    rw [headChildren_of_spot hspot, headless_of_spot hspot, htags, htags, hempty]
    simp only [List.append_nil, List.mem_append]
    tauto

/-- A document carries the mark in its head or in the rest. -/
lemma carriesMark_iff_head_or_headless (document : Document) :
    CarriesMark document.children ↔
      CarriesMark document.headChildren ∨ CarriesMark document.headless.children := by
  simp only [Node.carriesMark_iff, List.any_eq_true, mem_tagsNamedIn_iff_head_or_headless document,
    or_and_right, exists_or]

/-- The document carries the mark exactly when the mark stands anywhere in it. -/
lemma isProcessed_iff_carriesMark (document : Document) :
    document.isProcessed = true ↔ CarriesMark document.children := by
  rw [Node.carriesMark_iff, isProcessed]

/-! ## The reference to the stylesheet -/

/-- The `link` elements of a stamped head: those that it had, and the reference to the stylesheet if
none of them has this reference. -/
lemma tagsNamedIn_link_stampHead (marked : Bool) (href : String) (children : List Node) :
    tagsNamedIn "link" (stampHead marked (some href) children) =
      tagsNamedIn "link" children ++
        if refersTo children href then [] else Node.tagsNamed "link" (stylesheetLink href) := by
  have hmark : tagsNamedIn "link" (stampHead marked none children) =
      tagsNamedIn "link" children := by
    have hmeta : Node.tagsNamed "link" generatorMeta = [] := rfl
    rw [stampHead_none]
    cases marked with
    | true => rfl
    | false => rw [if_neg (by decide), tagsNamedIn_appendLine, hmeta, List.append_nil]
  have hrefers : refersTo (stampHead marked none children) href = refersTo children href := by
    rw [refersTo, refersTo, hmark]
  rw [stampHead_some, hrefers]
  split
  · rw [hmark, List.append_nil]
  · rw [tagsNamedIn_appendLine, hmark]

/-- A stamped head links the stylesheet exactly when it did so before or had no `link` element with
this reference. -/
lemma linksStylesheet_stampHead_iff (marked : Bool) (href : String) (children : List Node) :
    LinksStylesheet (stampHead marked (some href) children) href ↔
      LinksStylesheet children href ∨ ¬RefersTo children href := by
  have hlink : (Node.tagsNamed "link" (stylesheetLink href)).any (fun tag =>
      tag.get? "rel" == some "stylesheet" && tag.get? "href" == some href) = true := by
    simp [stylesheetLink, Node.ofTag, Node.tagsNamed, tagsNamedIn, Tag.get?]
  rw [Node.linksStylesheet_iff, Node.linksStylesheet_iff, Node.refersTo_iff,
    tagsNamedIn_link_stampHead, List.any_append]
  cases refersTo children href with
  | true => simp
  | false => simp [hlink]

end Document

/-- When the configured stylesheet is linked.  In a document with a head, marked with a stylesheet,
the head holds a `link` element that refers to it as a stylesheet exactly when it held one before or
when no `link` element in it had this reference, whatever for; it always holds one with this
reference. -/
theorem linksStylesheet_markProcessed_iff (document : Document) (href : String)
    (hhead : ∃ tag, tag.name = "head" ∧ Node.Occurs tag document.children) :
    let marked := document.markProcessed (some href)
    (Node.LinksStylesheet marked.headChildren href ↔
      Node.LinksStylesheet document.headChildren href ∨ ¬Node.RefersTo document.headChildren href) ∧
    Node.RefersTo marked.headChildren href := by
  intro marked
  obtain ⟨around, children, hspot, rfl⟩ := Document.exists_spot_of_occurs hhead
  have hmarked : marked.headChildren =
      Document.stampHead (Document.isProcessed ⟨around children⟩) (some href) children := by
    unfold marked
    rw [Document.markProcessed_of_spot hspot, Document.headChildren_of_spot hspot]
  rw [hmarked, Document.headChildren_of_spot hspot]
  exact ⟨Document.linksStylesheet_stampHead_iff _ href children,
    Node.refersTo_iff.2 (Document.refersTo_stampHead _ href children)⟩

/-- A head that refers to an icon gets the stylesheet linked. -/
theorem linksStylesheet_markProcessed_iff_icon :
    let document : Document := ⟨[.ofTag "html" [] [.ofTag "head" []
      [.ofTag "link" [("rel", "icon"), ("href", "a.png")] []], .ofTag "body" [] []]]⟩
    (∃ tag, tag.name = "head" ∧ Node.Occurs tag document.children) ∧
      ¬Node.RefersTo document.headChildren "a.css" ∧
      Node.LinksStylesheet (document.markProcessed (some "a.css")).headChildren "a.css" := by
  intro document
  have hhead : ∃ tag, tag.name = "head" ∧ Node.Occurs tag document.children :=
    ⟨⟨"head", [], .html⟩, Node.mem_tagsNamedIn_iff.1 (by decide)⟩
  have hnone : ¬Node.RefersTo document.headChildren "a.css" := by
    rw [Node.refersTo_iff]
    decide
  exact ⟨hhead, hnone, (linksStylesheet_markProcessed_iff document "a.css" hhead).1.2 (.inr hnone)⟩

/-- A head that asks for the stylesheet ahead of time does not get it linked: the document has a
head, and the marked document does not refer to the stylesheet as one. -/
theorem not_linksStylesheet_preload :
    let document : Document := ⟨[.ofTag "html" [] [.ofTag "head" []
      [.ofTag "link" [("rel", "preload"), ("as", "style"), ("href", "x.css")] []],
      .ofTag "body" [] []]]⟩
    (∃ tag, tag.name = "head" ∧ Node.Occurs tag document.children) ∧
      ¬Node.LinksStylesheet (document.markProcessed (some "x.css")).headChildren "x.css" := by
  intro document
  exact ⟨⟨⟨"head", [], .html⟩, Node.mem_tagsNamedIn_iff.1 (by decide)⟩, by decide⟩

/-! ## Refused pages -/

section Refusal

variable {r : Resolution} {options : PublishOptions} {source : String}

/-- Between non-empty delimiters a page is refused or published. -/
lemma publish_value_eq (hleft : r.delimiters.left ≠ "") (hright : r.delimiters.right ≠ "") :
    (publish r options source).value =
      if (Document.parse source).isProcessed = true ∧ options.force = false then
        .error .alreadyProcessed
      else .ok (r.linker.finish (.parse source) options).value := by
  unfold publish
  rw [Resolution.ofResolution_eq_ok hleft hright]
  simp only [Bool.and_eq_true, Bool.not_eq_true']
  split <;> rfl

/-- A page that is not forced is refused exactly when the mark stands anywhere in its tree. -/
lemma publish_eq_error_iff (hleft : r.delimiters.left ≠ "") (hright : r.delimiters.right ≠ "")
    (hforce : options.force = false) :
    (publish r options source).value = .error .alreadyProcessed ↔
      Node.CarriesMark (Document.parse source).children := by
  rw [publish_value_eq hleft hright, ← Document.isProcessed_iff_carriesMark]
  split
  · next hrefused => exact iff_of_true rfl hrefused.1
  · next hpublished => exact iff_of_false (by simp) fun hmark => hpublished ⟨hmark, hforce⟩

/-- A page that is not forced is published exactly when the mark stands nowhere in its tree. -/
lemma exists_publish_eq_ok_iff (hleft : r.delimiters.left ≠ "") (hright : r.delimiters.right ≠ "")
    (hforce : options.force = false) :
    (∃ page, (publish r options source).value = .ok page) ↔
      ¬Node.CarriesMark (Document.parse source).children := by
  rw [publish_value_eq hleft hright, ← Document.isProcessed_iff_carriesMark]
  split
  · next hrefused => exact iff_of_false (by simp) fun hmark => hmark hrefused.1
  · next hpublished => exact iff_of_true ⟨_, rfl⟩ fun hmark => hpublished ⟨hmark, hforce⟩

end Refusal

/-- Which mark counts.  A document counts as processed exactly when the mark stands in its head or
in the rest of it.  So the head alone decides exactly when a mark in the rest comes with one in the
head.  Between non-empty delimiters, a page with this tree that is not forced is refused exactly
when the mark stands in the head or in the rest, and it is published otherwise. -/
theorem isProcessed_iff_head_or_stray (document : Document) :
    let inHead := Node.CarriesMark document.headChildren
    let stray := Node.CarriesMark document.headless.children
    (document.isProcessed = true ↔ inHead ∨ stray) ∧
    ((document.isProcessed = true ↔ inHead) ↔ (stray → inHead)) ∧
    ∀ (r : Resolution) (options : PublishOptions) (source : String),
      r.delimiters.left ≠ "" → r.delimiters.right ≠ "" → options.force = false →
        Document.parse source = document →
        ((publish r options source).value = .error .alreadyProcessed ↔ inHead ∨ stray) ∧
        ((∃ page, (publish r options source).value = .ok page) ↔ ¬inHead ∧ ¬stray) := by
  intro inHead stray
  have hmark : Node.CarriesMark document.children ↔ inHead ∨ stray :=
    Document.carriesMark_iff_head_or_headless document
  have hprocessed : document.isProcessed = true ↔ inHead ∨ stray :=
    (Document.isProcessed_iff_carriesMark document).trans hmark
  refine ⟨hprocessed, ?_, ?_⟩
  · rw [hprocessed, or_iff_left_iff_imp]
  · rintro r options source hleft hright hforce rfl
    constructor
    · rw [publish_eq_error_iff hleft hright hforce, hmark]
    · rw [exists_publish_eq_ok_iff hleft hright hforce, hmark, not_or]

/-- A page with the mark in its head, and no other, is refused. -/
theorem isProcessed_iff_head_or_stray_head :
    let source := "<meta name=generator content=nanolp-pub>"
    (({} : Resolution).delimiters.left ≠ "" ∧ ({} : Resolution).delimiters.right ≠ "" ∧
        ({} : PublishOptions).force = false) ∧
      Node.CarriesMark (Document.parse source).headChildren ∧
      ¬Node.CarriesMark (Document.parse source).headless.children ∧
      (publish {} {} source).value = .error .alreadyProcessed := by
  intro source
  have hleft : ({} : Resolution).delimiters.left ≠ "" := by decide
  have hright : ({} : Resolution).delimiters.right ≠ "" := by decide
  have hhead : Node.CarriesMark (Document.parse source).headChildren := by decide +kernel
  have hrest : ¬Node.CarriesMark (Document.parse source).headless.children := by decide +kernel
  obtain ⟨-, -, hpublish⟩ := isProcessed_iff_head_or_stray (Document.parse source)
  obtain ⟨hrefused, -⟩ := hpublish {} {} source hleft hright rfl rfl
  exact ⟨⟨hleft, hright, rfl⟩, hhead, hrest, hrefused.2 (.inl hhead)⟩

/-- A mark in the body counts: the head of the tree carries no mark, and yet the document counts as
processed and the page is refused. -/
theorem isProcessed_ne_head_body :
    let source := "<body><meta name=generator content=nanolp-pub>"
    ¬Node.CarriesMark (Document.parse source).headChildren ∧
      (Document.parse source).isProcessed = true ∧
      (publish {} {} source).value = .error .alreadyProcessed := by
  intro source
  have hhead : ¬Node.CarriesMark (Document.parse source).headChildren := by decide +kernel
  have hprocessed : (Document.parse source).isProcessed = true := by decide +kernel
  have hmark := (Document.isProcessed_iff_carriesMark _).1 hprocessed
  exact ⟨hhead, hprocessed, (publish_eq_error_iff (by decide) (by decide) rfl).2 hmark⟩

end LiterateLinks
