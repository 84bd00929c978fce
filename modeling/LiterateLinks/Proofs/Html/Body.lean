import Mathlib.Tactic.Common
import LiterateLinks.Proofs.Html.Content

/-!
# Elements of the body

The rules of the body sort elements by their names.  `Builder.role` is that sorting as a table, and
`Builder.fits` says when the start tag of an element with a role closes none of the elements around
it.  It only looks at the names of those elements, so it can be computed from a tree.

Most roles are plain: the element is opened by its start tag and closed by its end tag, and nothing
else changes.  For all of them this is `Builder.Stands.opens_startInBody` and
`Builder.Stands.endInBody_eq_pop`; there is one lemma for each role before that.
-/

namespace LiterateLinks

namespace Html

namespace Builder

/-! ### Scopes -/

/-- Whether a wanted element is among those with the given names, before any that ends the
search. -/
def seeks (stops wanted : String → Bool) : List String → Bool
  | [] => false
  | name :: names => wanted name || (!stops name && seeks stops wanted names)

/-- Whether the search for most open elements ends here. -/
def stopsSearch (name : String) : Bool :=
  ["applet", "caption", "html", "table", "td", "th", "marquee", "object", "template"].contains name

/-- Whether a new block would close a paragraph. -/
def holdsParagraph (names : List String) : Bool :=
  seeks (fun name => stopsSearch name || name == "button") (· == "p") names

/-- Recent entries are entries. -/
lemma mem_formatting_of_mem_recent {b : Builder} {node : Nat} {tag : StartTag}
    (h : (node, tag) ∈ b.recentFormatting) : .element node tag ∈ b.formatting := by
  obtain ⟨entry, hentry, heq⟩ := List.mem_filterMap.1 h
  cases entry with
  | marker => simp at heq
  | element n t =>
    simp only [Option.some.injEq, Prod.mk.injEq] at heq
    obtain ⟨rfl, rfl⟩ := heq
    exact (List.takeWhile_sublist _).subset hentry

namespace Stands

variable {b : Builder} {name : String} {names : List String}

/-- The search among open elements goes by their names. -/
lemma searchScope_eq (scope : Tag → Bool) (stops : String → Bool) (wantedTag : Tag → Bool)
    (wanted : String → Bool) (hstops : ∀ name attributes, scope { name, attributes } = stops name)
    (hwanted : ∀ name attributes, wantedTag { name, attributes } = wanted name) {stack : List Nat}
    (htags : List.Forall₂ (fun i name => ∃ attributes, b.arena.tag? i = some { name, attributes })
      stack names) :
    b.searchScope scope (fun node => wantedTag (b.tag node)) stack = seeks stops wanted names := by
  induction htags with
  | nil => rfl
  | cons hhead _ ih =>
    obtain ⟨attributes, htag⟩ := hhead
    have htag : b.tag _ = _ := congrArg (·.getD default) htag
    simp only [Option.getD_some] at htag
    simp only [searchScope, seeks, htag, hstops, hwanted, ih]

/-- Most elements end the search by their names. -/
lemma defaultScope_eq (name : String) (attributes : List Attribute) :
    defaultScope { name, attributes } = stopsSearch name := by
  simp [defaultScope, isHtmlIn, isMathText, isSvgHtml, stopsSearch]

/-- Whether an element of that name is in scope goes by the names. -/
lemma nameInScope_eq (h : Stands b names) (wanted : String) :
    b.nameInScope defaultScope wanted = seeks stopsSearch (· == wanted) names :=
  searchScope_eq defaultScope stopsSearch (isHtml · wanted) (· == wanted) defaultScope_eq
    (fun name attributes => by simp [isHtml]) h.tags

/-- A paragraph that is not in scope is not closed. -/
lemma closeParagraphInScope_eq (h : Stands b names) (hp : holdsParagraph names = false) :
    b.closeParagraphInScope = b := by
  have hscope : b.nameInScope buttonScope "p" = holdsParagraph names :=
    searchScope_eq buttonScope _ (isHtml · "p") _
      (fun name attributes => by simp [buttonScope, defaultScope_eq, isHtml])
      (fun name attributes => by simp [isHtml]) h.tags
  rw [closeParagraphInScope, hscope, hp]
  rfl

/-- No formatting element has to be opened again. -/
lemma reconstruct_eq (h : Stands b names) : b.reconstruct = b := by
  have hclosed : b.closedFormatting = [] := by
    rw [closedFormatting]
    cases hrecent : b.recentFormatting with
    | nil => rfl
    | cons entry entries =>
      obtain ⟨node, tag⟩ := entry
      have hmem : (node, tag) ∈ b.recentFormatting := by rw [hrecent]; exact List.mem_cons_self
      have hnode : node ∈ b.stack := (h.formatting node tag (mem_formatting_of_mem_recent hmem)).1
      exact List.takeWhile_cons_of_neg (by simp [hnode])
  rw [reconstruct, hclosed]
  rfl

/-- The innermost element is known by its name. -/
lemma isHtml_currentTag (h : Stands b (name :: names)) (other : String) :
    isHtml b.currentTag other = (name == other) := by
  obtain ⟨attributes, htag⟩ := h.exists_currentTag_eq
  simp [htag, isHtml]

/-- The innermost element is known by its name. -/
lemma isHtmlIn_currentTag (h : Stands b (name :: names)) (others : List String) :
    isHtmlIn b.currentTag others = others.contains name := by
  obtain ⟨attributes, htag⟩ := h.exists_currentTag_eq
  simp [htag, isHtmlIn]

/-- The innermost element is in scope. -/
lemma nameInScope_self (h : Stands b (name :: names)) (scope : Tag → Bool) :
    b.nameInScope scope name = true := by
  obtain ⟨outer, attributes, hstack, htag⟩ := h.exists_stack_eq
  have hcurrent : isHtml (b.tag b.current) name = true :=
    (h.isHtml_currentTag name).trans (beq_self_eq_true name)
  rw [nameInScope, inScope, hstack, searchScope, hcurrent, Bool.true_or]

/-- The innermost element is closed by its name. -/
lemma popThrough_self (h : Stands b (name :: names)) : b.popThrough name = b.pop :=
  popThrough_eq_pop ((h.isHtml_currentTag name).trans (beq_self_eq_true name))

/-! ### End tags -/

/-- The end tag of a block closes it. -/
lemma endInBody_closable (h : Stands b (name :: names))
    (hname : closableElements.contains name = true) :
    b.endInBody name = .done b.pop := by
  have himplied : impliedEnd.contains name = false := by
    have hall : ∀ n ∈ closableElements, impliedEnd.contains n = false := by decide
    exact hall name (List.contains_iff_mem.1 hname)
  have hclose : b.closeImplied = b :=
    popWhile_eq_self ((h.isHtmlIn_currentTag impliedEnd).trans himplied)
  unfold endInBody
  rw [if_pos hname, h.nameInScope_self, if_pos rfl, hclose, h.popThrough_self]

/-- The end tag of a heading closes it. -/
lemma endInBody_heading (h : Stands b (name :: names)) (hname : headings.contains name = true) :
    b.endInBody name = .done b.pop := by
  have hother : ∀ n ∈ headings, closableElements.contains n = false ∧
      impliedEnd.contains n = false := by
    decide
  obtain ⟨hclosable, himplied⟩ := hother name (List.contains_iff_mem.1 hname)
  have hclose : b.closeImplied = b :=
    popWhile_eq_self ((h.isHtmlIn_currentTag impliedEnd).trans himplied)
  have hcurrent : isHtmlIn b.currentTag headings = true :=
    (h.isHtmlIn_currentTag headings).trans hname
  have hscope : b.inScope defaultScope (fun node => isHtmlIn (b.tag node) headings) = true := by
    obtain ⟨outer, attributes, hstack, htag⟩ := h.exists_stack_eq
    rw [currentTag] at hcurrent
    rw [inScope, hstack, searchScope, hcurrent, Bool.true_or]
  unfold endInBody
  rw [if_neg (ne_true_of_eq_false hclosable), if_pos hname]
  simp only [hscope, if_true, hclose, popThroughIn]
  rw [popWhile_eq_self (by simp [hcurrent])]

/-- The end tag of a paragraph closes it. -/
lemma endInBody_paragraph (h : Stands b ("p" :: names)) : b.endInBody "p" = .done b.pop := by
  have hclose : b.closeImpliedExcept "p" = b :=
    popWhile_eq_self (by simp [h.isHtml_currentTag])
  have hend : b.endInBody "p" = .done
      (if b.nameInScope buttonScope "p" then b else b.insertPhantom "p").closeParagraph := rfl
  rw [hend, h.nameInScope_self, if_pos rfl, closeParagraph, hclose, h.popThrough_self]

/-- The end tag of a list item closes it. -/
lemma endInBody_item (h : Stands b (name :: names)) (hname : name ∈ ["li", "dd", "dt"]) :
    b.endInBody name = .done b.pop := by
  have hclose : b.closeImpliedExcept name = b :=
    popWhile_eq_self (by simp [h.isHtml_currentTag])
  have hend : ∃ scope, b.endInBody name = .done
      (if b.nameInScope scope name then (b.closeImpliedExcept name).popThrough name else b) := by
    simp only [List.mem_cons, List.not_mem_nil, or_false] at hname
    rcases hname with rfl | rfl | rfl
    · exact ⟨listItemScope, rfl⟩
    · exact ⟨defaultScope, rfl⟩
    · exact ⟨defaultScope, rfl⟩
  obtain ⟨scope, hend⟩ := hend
  rw [hend, h.nameInScope_self, if_pos rfl, hclose, h.popThrough_self]

/-- An element is closed by its name. -/
lemma closeNamed_self (h : Stands b (name :: names)) : b.closeNamed name = b.pop := by
  obtain ⟨outer, attributes, hstack, htag⟩ := h.exists_stack_eq
  have hcurrent : isHtml (b.tag b.current) name = true :=
    (h.isHtml_currentTag name).trans (beq_self_eq_true name)
  have hclose : b.closeImpliedExcept name = b :=
    popWhile_eq_self (by simp [h.isHtml_currentTag])
  have hfind : b.stack.find? (fun node => isHtml (b.tag node) name || isSpecial (b.tag node)) =
      some b.current := by
    rw [hstack]
    exact List.find?_cons_of_pos (by simp [hcurrent])
  have hdrop : b.stack.dropWhile (· != b.current) = b.stack := by
    rw [hstack]
    exact List.dropWhile_cons_of_neg (by simp)
  simp only [closeNamed, hfind, hcurrent, if_true, hclose, hdrop]
  rfl

end Stands

/-! ### Roles of elements -/

/-- How an element in the body of a page is read. -/
inductive Role where
  /-- It is opened and closed by its tags. -/
  | ordinary
  | paragraph
  /-- It closes an open paragraph. -/
  | block
  /-- It closes an open paragraph and an open heading around it. -/
  | heading
  /-- It is a block, and a line feed right after its start tag is left out. -/
  | preformatted
  /-- It is a block and closes an open item with one of the names. -/
  | item (names : List String)
  /-- It closes an open button. -/
  | button
  /-- It closes an open option. -/
  | option
  /-- It closes an annotation before it. -/
  | ruby
  /-- It is remembered and opened again when it is closed by the end of an element around it. -/
  | formatting
  /-- It holds a page of its own. -/
  | enclosing
  /-- It is a block that does not stand in another form. -/
  | form
  /-- It has no content. -/
  | void
  /-- It holds text only. -/
  | text (kind : TextKind)
  | template
  /-- It has rules of its own. -/
  | other
  deriving DecidableEq

/-- The elements without content that may stand in a body. -/
def emptyElements : List String :=
  ["area", "base", "basefont", "bgsound", "br", "embed", "hr", "img", "input", "keygen", "link",
    "meta", "param", "source", "track", "wbr"]

/-- The other elements with rules of their own. -/
def otherElements : List String :=
  misplacedElements ++
    ["html", "body", "frameset", "plaintext", "table", "image", "select", "math", "svg"]

/-- The roles of elements by their names. -/
def roles : List (List String × Role) :=
  [(["p"], .paragraph), (blockElements, .block), (headings, .heading),
    (["pre", "listing"], .preformatted), (["li"], .item ["li"]), (["dd", "dt"], .item ["dd", "dt"]),
    (["button"], .button), (["optgroup", "option"], .option), (["rb", "rp", "rt", "rtc"], .ruby),
    (formattingElements, .formatting), (enclosingElements, .enclosing), (["form"], .form),
    (emptyElements, .void), (["template"], .template), (otherElements, .other),
    (["title"], .text (.escapable "title")), (["textarea"], .text (.escapable "textarea")),
    (["script"], .text .script), (["style"], .text (.raw "style")),
    (["noframes"], .text (.raw "noframes")), (["xmp"], .text (.raw "xmp")),
    (["iframe"], .text (.raw "iframe")), (["noembed"], .text (.raw "noembed")),
    (["noscript"], .text (.raw "noscript"))]

/-- The role of the element with that name. -/
def role (name : String) : Role :=
  ((roles.find? (·.1.contains name)).map (·.2)).getD .ordinary

/-- Whether a new item closes an open one. -/
def closesItem (items names : List String) : Bool :=
  (names.find? fun name => items.contains name ||
    (specialElements.contains name && !(["address", "div", "p"].contains name))).any items.contains

/-- Whether the start tag of an element with that role and name closes none of the open elements. -/
def fits (names : List String) (name : String) : Role → Bool
  | .ordinary | .enclosing | .template => true
  | .paragraph | .block | .preformatted => !holdsParagraph names
  | .heading => !holdsParagraph names && !names.head?.any headings.contains
  | .item items => !holdsParagraph names && !closesItem items names
  | .button => !seeks stopsSearch (· == "button") names
  | .option => names.head? != some "option"
  | .ruby => !names.head?.any impliedEnd.contains
  | .formatting => !(["a", "nobr"].contains name && names.contains name)
  | .form => !holdsParagraph names && !names.contains "form"
  | .void | .text _ => !(["hr", "xmp"].contains name && holdsParagraph names)
  | .other => false

/-- The elements that are opened and closed by their tags and change nothing else. -/
def Role.isPlain : Role → Bool
  | .ordinary | .paragraph | .block | .heading | .preformatted | .item _ | .button | .option
  | .ruby => true
  | _ => false

/-- An element is ordinary or has one of the names that go with its role. -/
lemma role_cases (name : String) :
    role name = .ordinary ∨ ∃ group, (group, role name) ∈ roles ∧ name ∈ group := by
  unfold role
  cases hfound : roles.find? (·.1.contains name) with
  | none => exact Or.inl rfl
  | some entry =>
    refine Or.inr ⟨entry.1, List.mem_of_find?_eq_some hfound, ?_⟩
    simpa using List.find?_some hfound

/-- The names that go with a role, if the table lists them once. -/
lemma mem_of_role_eq {name : String} {r : Role} {group : List String} (h : role name = r)
    (hr : r ≠ .ordinary) (hroles : roles.all fun entry => entry.2 != r || entry.1 == group) :
    name ∈ group := by
  rcases role_cases name with hordinary | ⟨names, hmem, hname⟩
  · exact absurd (h.symm.trans hordinary) hr
  · have hgroup := List.all_eq_true.1 hroles _ hmem
    simp only [h, bne_self_eq_false, Bool.false_or, beq_iff_eq] at hgroup
    exact hgroup ▸ hname

/-- The names of items. -/
lemma mem_of_role_eq_item {name : String} {items : List String} (h : role name = .item items) :
    (items = ["li"] ∨ items = ["dd", "dt"]) ∧ name ∈ items := by
  rcases role_cases name with hordinary | ⟨group, hgroup, hmem⟩
  · exact absurd (h.symm.trans hordinary) (by simp)
  · rw [h] at hgroup
    simp only [roles, List.mem_cons, Prod.mk.injEq, List.not_mem_nil, reduceCtorEq, and_false,
      Role.item.injEq, or_false, false_or] at hgroup
    rcases hgroup with ⟨rfl, rfl⟩ | ⟨rfl, rfl⟩
    · exact ⟨Or.inl rfl, hmem⟩
    · exact ⟨Or.inr rfl, hmem⟩

/-! ### Start tags -/

/-- The elements that belong in a head wherever they stand. -/
def headElements : List String :=
  ["base", "basefont", "bgsound", "link", "meta", "title", "noframes", "style", "script",
    "template"]

/-- The other elements have no rules in common with the head. -/
lemma headContent?_eq_none (b : Builder) {tag : StartTag} (h : tag.name ∉ headElements) :
    b.headContent? (.startTag tag) = none := by
  simp only [headElements, List.mem_cons, List.not_mem_nil, or_false, not_or] at h
  simp [headContent?, h]

/-- The elements that have rules of their own in a body. -/
def ruledElements : List String :=
  blockElements ++ headings ++ misplacedElements ++ enclosingElements ++ formattingElements ++
    ["html", "body", "frameset", "pre", "listing", "form", "li", "dd", "dt", "plaintext", "button",
      "table", "area", "br", "embed", "img", "keygen", "wbr", "image", "input", "param", "source",
      "track", "hr", "textarea", "xmp", "iframe", "noembed", "noscript", "select", "optgroup",
      "option", "rb", "rtc", "rp", "rt", "math", "svg"]

/-- The other elements are opened as they come. -/
lemma startInBody_of_notMem (b : Builder) {tag : StartTag} (h : tag.name ∉ ruledElements) :
    b.startInBody tag = b.reconstruct.insertHtml tag := by
  simp only [ruledElements, List.mem_append, not_or] at h
  obtain ⟨⟨⟨⟨⟨hblock, hheading⟩, hmisplaced⟩, henclosing⟩, hformatting⟩, hruled⟩ := h
  rw [← List.contains_iff_mem] at hblock hheading hmisplaced henclosing
  simp only [formattingElements, List.mem_cons, not_or, List.not_mem_nil, not_false_eq_true,
    and_true] at hformatting hruled
  unfold startInBody
  simp only [hblock, hheading, hmisplaced, henclosing]
  simp [hformatting, hruled]

/-- The elements whose end tags have rules of their own in a body. -/
def closedElements : List String :=
  closableElements ++ headings ++ formattingElements ++ enclosingElements ++
    ["body", "html", "form", "p", "li", "dd", "dt", "br"]

/-- The other elements are closed by their names. -/
lemma endInBody_of_notMem (b : Builder) {name : String} (h : name ∉ closedElements) :
    b.endInBody name = .done (b.closeNamed name) := by
  simp only [closedElements, List.mem_append, not_or] at h
  obtain ⟨⟨⟨⟨hclosable, hheading⟩, hformatting⟩, henclosing⟩, hclosed⟩ := h
  rw [← List.contains_iff_mem] at hclosable hheading hformatting henclosing
  simp only [List.mem_cons, not_or, List.not_mem_nil, not_false_eq_true, and_true] at hclosed
  unfold endInBody
  simp only [hclosable, hheading, hformatting, henclosing]
  simp [hclosed]

/-- The later state has one more open element, and nothing else has changed but whether a line feed
is left out and whether framesets are allowed. -/
def Opens (b : Builder) (tag : Tag) (skip : Bool) (opened : Builder) : Prop :=
  ∃ arena i ok, opened =
      { b with arena, stack := i :: b.stack, framesetOk := ok, skipLineFeed := skip } ∧
    b.arena.Opened arena b.current tag none i

namespace Opens

variable {b opened : Builder} {tag : Tag} {skip : Bool}

/-- Whether framesets are allowed does not matter afterwards. -/
lemma noFrameset (h : Opens b tag skip opened) : Opens b tag skip opened.noFrameset := by
  obtain ⟨arena, i, ok, rfl, hopened⟩ := h
  exact ⟨arena, i, false, rfl, hopened⟩

/-- Whether framesets are allowed does not matter before. -/
lemma of_noFrameset (h : Opens b.noFrameset tag skip opened) : Opens b tag skip opened := by
  obtain ⟨arena, i, ok, rfl, hopened⟩ := h
  exact ⟨arena, i, ok, rfl, hopened⟩

/-- A line feed is left out. -/
lemma withSkip (h : Opens b tag skip opened) :
    Opens b tag true { opened with skipLineFeed := true } := by
  obtain ⟨arena, i, ok, rfl, hopened⟩ := h
  exact ⟨arena, i, ok, rfl, hopened⟩

end Opens

namespace Stands

variable {b : Builder} {name : String} {names : List String} {tag : StartTag}

/-- The first open element with a property is found by its name. -/
lemma map_find?_eq {p : Tag → Bool} {q : String → Bool}
    (hp : ∀ name attributes, p { name, attributes } = q name) {stack : List Nat}
    (htags : List.Forall₂ (fun i name => ∃ attributes, b.arena.tag? i = some { name, attributes })
      stack names) :
    (stack.find? fun node => p (b.tag node)).map (fun node => (b.tag node).name) =
      names.find? q := by
  induction htags with
  | nil => rfl
  | @cons i name _ _ hhead _ ih =>
    obtain ⟨attributes, htag⟩ := hhead
    have htag : b.tag i = { name, attributes } := by rw [Builder.tag, htag]; rfl
    simp only [List.find?_cons, htag, hp]
    cases q name with
    | true => simp [htag]
    | false => exact ih

/-- A new item that fits closes no other item. -/
lemma itemToClose?_eq_none (h : Stands b names) {items : List String}
    (hitem : closesItem items names = false) : b.itemToClose? items = none := by
  have hends : ∀ name attributes,
      (isHtmlIn { name, attributes } items || endsItemSearch { name, attributes }) =
        (items.contains name ||
          (specialElements.contains name && !(["address", "div", "p"].contains name))) :=
    fun name attributes => by simp [isHtmlIn, endsItemSearch, isSpecial]
  have hfind := map_find?_eq (p := fun tag => isHtmlIn tag items || endsItemSearch tag) hends h.tags
  rw [closesItem, ← hfind] at hitem
  rw [itemToClose?]
  cases hnode : b.stack.find? fun node =>
    isHtmlIn (b.tag node) items || endsItemSearch (b.tag node) with
  | none => rfl
  | some node =>
    have hname : items.contains (b.tag node).name = false := by simpa [hnode] using hitem
    have hnot : isHtmlIn (b.tag node) items = false := by rw [isHtmlIn, hname, Bool.and_false]
    rw [Option.bind_some, hnot]
    rfl

/-- An element is inserted and opened, and nothing else changes. -/
lemma opens_insertHtml (h : Stands b (name :: names)) (htag : tag.name ≠ "template") :
    Opens b (htmlTag tag) false (b.insertHtml tag) := by
  have htemplate : Arena.isTemplate (htmlTag tag) = false := by
    simp [Arena.isTemplate, htmlTag, htag]
  obtain ⟨arena, i, hinsert, hopened⟩ := h.exists_insertOpen_eq htemplate
  refine ⟨arena, i, b.framesetOk, ?_, hopened⟩
  rw [insertHtml, hinsert, ← h.skipLineFeed]

section

variable (h : Stands b (name :: names))
include h

/-- The start tag of a block opens it, if there is no paragraph to close. -/
lemma opens_block (hmem : tag.name ∈ blockElements) (hp : holdsParagraph (name :: names) = false) :
    Opens b (htmlTag tag) false (b.startInBody tag) := by
  unfold startInBody
  rw [if_pos (List.contains_iff_mem.2 hmem), h.closeParagraphInScope_eq hp]
  refine h.opens_insertHtml fun htag => ?_
  exact absurd (htag ▸ hmem) (by decide)

/-- The start tag of a heading opens it, if there is no paragraph and no heading to close. -/
lemma opens_heading (hmem : tag.name ∈ headings) (hp : holdsParagraph (name :: names) = false)
    (hheading : headings.contains name = false) :
    Opens b (htmlTag tag) false (b.startInBody tag) := by
  have hother : ∀ n ∈ headings, blockElements.contains n = false ∧ n ≠ "template" := by decide
  obtain ⟨hblock, htag⟩ := hother tag.name hmem
  have hcurrent : b.currentIn headings = false := (h.isHtmlIn_currentTag headings).trans hheading
  unfold startInBody
  rw [if_neg (ne_true_of_eq_false hblock), if_pos (List.contains_iff_mem.2 hmem)]
  simp only [h.closeParagraphInScope_eq hp, hcurrent, Bool.false_eq_true, if_false]
  exact h.opens_insertHtml htag

/-- The start tag of preformatted text opens it, if there is no paragraph to close. -/
lemma opens_preformatted (hmem : tag.name ∈ ["pre", "listing"])
    (hp : holdsParagraph (name :: names) = false) :
    Opens b (htmlTag tag) true (b.startInBody tag) := by
  have hstart : b.startInBody tag =
      { (b.closeParagraphInScope.insertHtml tag).noFrameset with skipLineFeed := true } := by
    obtain ⟨tagName, attributes, selfClosing⟩ := tag
    simp only [List.mem_cons, List.not_mem_nil, or_false] at hmem
    rcases hmem with rfl | rfl <;> rfl
  rw [hstart, h.closeParagraphInScope_eq hp]
  have htag : tag.name ≠ "template" := fun htag => absurd (htag ▸ hmem) (by decide)
  exact (h.opens_insertHtml htag).noFrameset.withSkip

/-- The start tag of an item opens it, if there is no paragraph and no item to close. -/
lemma opens_item {items : List String} (hitems : items = ["li"] ∨ items = ["dd", "dt"])
    (hmem : tag.name ∈ items) (hp : holdsParagraph (name :: names) = false)
    (hitem : closesItem items (name :: names) = false) :
    Opens b (htmlTag tag) false (b.startInBody tag) := by
  have hstart : b.startInBody tag = b.openItem items tag := by
    obtain ⟨tagName, attributes, selfClosing⟩ := tag
    rcases hitems with rfl | rfl
    · obtain rfl := List.mem_singleton.1 hmem
      rfl
    · simp only [List.mem_cons, List.not_mem_nil, or_false] at hmem
      rcases hmem with rfl | rfl <;> rfl
  have htag : tag.name ≠ "template" := by
    rintro htag
    rcases hitems with rfl | rfl <;> exact absurd (htag ▸ hmem) (by decide)
  have hb : Stands b.noFrameset (name :: names) := h.congr rfl (fun _ _ => rfl) fun _ _ hmem => hmem
  rw [hstart]
  simp only [openItem, hb.itemToClose?_eq_none hitem, hb.closeParagraphInScope_eq hp]
  exact (hb.opens_insertHtml htag).of_noFrameset

/-- The start tag of a button opens it, if there is no button to close. -/
lemma opens_button (hmem : tag.name = "button")
    (hbutton : seeks stopsSearch (· == "button") (name :: names) = false) :
    Opens b (htmlTag tag) false (b.startInBody tag) := by
  have hstart : b.startInBody tag = ((if b.nameInScope defaultScope "button" then
      b.closeImplied.popThrough "button" else b).reconstruct.insertHtml tag).noFrameset := by
    obtain ⟨tagName, attributes, selfClosing⟩ := tag
    obtain rfl : tagName = "button" := hmem
    rfl
  rw [hstart, h.nameInScope_eq, hbutton, if_neg (by decide), h.reconstruct_eq]
  exact (h.opens_insertHtml (by rw [hmem]; decide)).noFrameset

/-- The start tag of an option opens it, if there is no option to close. -/
lemma opens_option (hmem : tag.name ∈ ["optgroup", "option"]) (hoption : name ≠ "option") :
    Opens b (htmlTag tag) false (b.startInBody tag) := by
  have hcurrent : b.currentIs "option" = false := by
    rw [currentIs, h.isHtml_currentTag, beq_eq_false_iff_ne.2 hoption]
  have hstart : b.startInBody tag =
      (if b.currentIs "option" then b.pop else b).reconstruct.insertHtml tag := by
    obtain ⟨tagName, attributes, selfClosing⟩ := tag
    simp only [List.mem_cons, List.not_mem_nil, or_false] at hmem
    rcases hmem with rfl | rfl <;> rfl
  rw [hstart, hcurrent, if_neg (by decide), h.reconstruct_eq]
  exact h.opens_insertHtml fun htag => absurd (htag ▸ hmem) (by decide)

/-- The start tag of a ruby annotation opens it, if its end does not imply the end of another
one. -/
lemma opens_ruby (hmem : tag.name ∈ ["rb", "rp", "rt", "rtc"])
    (himplied : impliedEnd.contains name = false) :
    Opens b (htmlTag tag) false (b.startInBody tag) := by
  have hcurrent : isHtmlIn b.currentTag impliedEnd = false :=
    (h.isHtmlIn_currentTag impliedEnd).trans himplied
  have hclose : b.closeImplied = b := popWhile_eq_self hcurrent
  have hcloseExcept : b.closeImpliedExcept "rtc" = b := popWhile_eq_self (by simp [hcurrent])
  have hstart : ∃ closed, (closed = b.closeImplied ∨ closed = b.closeImpliedExcept "rtc") ∧
      b.startInBody tag =
        (if b.nameInScope defaultScope "ruby" then closed else b).insertHtml tag := by
    obtain ⟨tagName, attributes, selfClosing⟩ := tag
    simp only [List.mem_cons, List.not_mem_nil, or_false] at hmem
    rcases hmem with rfl | rfl | rfl | rfl
    · exact ⟨_, Or.inl rfl, rfl⟩
    · exact ⟨_, Or.inr rfl, rfl⟩
    · exact ⟨_, Or.inr rfl, rfl⟩
    · exact ⟨_, Or.inl rfl, rfl⟩
  obtain ⟨closed, hclosed, hstart⟩ := hstart
  obtain rfl : closed = b := hclosed.elim (·.trans hclose) (·.trans hcloseExcept)
  rw [hstart, ite_self]
  exact h.opens_insertHtml fun htag => absurd (htag ▸ hmem) (by decide)

/-- The start tag of an ordinary element opens it. -/
lemma opens_ordinary (hrole : role tag.name = .ordinary) :
    Opens b (htmlTag tag) false (b.startInBody tag) := by
  have hother : ∀ n ∈ "template" :: ruledElements, role n ≠ .ordinary := by decide +kernel
  have hnot : tag.name ∉ ruledElements :=
    fun hmem => hother tag.name (List.mem_cons_of_mem _ hmem) hrole
  rw [startInBody_of_notMem b hnot, h.reconstruct_eq]
  exact h.opens_insertHtml fun htag => hother tag.name (htag ▸ List.mem_cons_self) hrole

/-- The start tag of a plain element that fits opens it. -/
lemma opens_startInBody (hrole : (role tag.name).isPlain = true)
    (hfits : fits (name :: names) tag.name (role tag.name) = true) :
    Opens b (htmlTag tag) (decide (role tag.name = .preformatted)) (b.startInBody tag) := by
  cases hr : role tag.name with
  | formatting | enclosing | form | void | text kind | template | other =>
    exact absurd hrole (by simp [hr, Role.isPlain])
  | ordinary => exact h.opens_ordinary hr
  | paragraph =>
    have hp : tag.name ∈ ["p"] := mem_of_role_eq hr (by decide) (by decide)
    exact h.opens_block (List.mem_singleton.1 hp ▸ (by decide)) (by simpa [hr, fits] using hfits)
  | block =>
    exact h.opens_block (mem_of_role_eq hr (by decide) (by decide))
      (by simpa [hr, fits] using hfits)
  | heading =>
    simp only [hr, fits, List.head?_cons, Option.any_some, Bool.and_eq_true, Bool.not_eq_true']
      at hfits
    exact h.opens_heading (mem_of_role_eq hr (by decide) (by decide)) hfits.1 hfits.2
  | preformatted =>
    exact h.opens_preformatted (mem_of_role_eq hr (by decide) (by decide))
      (by simpa [hr, fits] using hfits)
  | item items =>
    simp only [hr, fits, Bool.and_eq_true, Bool.not_eq_true'] at hfits
    obtain ⟨hitems, hmem⟩ := mem_of_role_eq_item hr
    exact h.opens_item hitems hmem hfits.1 hfits.2
  | button =>
    have hbutton : tag.name ∈ ["button"] := mem_of_role_eq hr (by decide) (by decide)
    exact h.opens_button (List.mem_singleton.1 hbutton) (by simpa [hr, fits] using hfits)
  | option =>
    exact h.opens_option (mem_of_role_eq hr (by decide) (by decide))
      (by simpa [hr, fits] using hfits)
  | ruby =>
    exact h.opens_ruby (mem_of_role_eq hr (by decide) (by decide))
      (by simpa [hr, fits] using hfits)

end

/-- The end tag of a plain element closes it. -/
lemma endInBody_eq_pop (h : Stands b (name :: names)) (hrole : (role name).isPlain = true) :
    b.endInBody name = .done b.pop := by
  cases hr : role name with
  | formatting | enclosing | form | void | text kind | template | other =>
    exact absurd hrole (by simp [hr, Role.isPlain])
  | ordinary =>
    have hother : ∀ n ∈ closedElements, role n ≠ .ordinary := by decide +kernel
    rw [endInBody_of_notMem b fun hmem => hother name hmem hr, h.closeNamed_self]
  | paragraph =>
    have hp : name ∈ ["p"] := mem_of_role_eq hr (by decide) (by decide)
    obtain rfl := List.mem_singleton.1 hp
    exact h.endInBody_paragraph
  | block =>
    have hmem : name ∈ blockElements := mem_of_role_eq hr (by decide) (by decide)
    have hclosable : ∀ n ∈ blockElements, n = "p" ∨ closableElements.contains n = true := by decide
    rcases hclosable name hmem with rfl | hname
    · exact absurd hr (by decide)
    · exact h.endInBody_closable hname
  | heading =>
    have hmem : name ∈ headings := mem_of_role_eq hr (by decide) (by decide)
    exact h.endInBody_heading (List.contains_iff_mem.2 hmem)
  | preformatted =>
    have hmem : name ∈ ["pre", "listing"] := mem_of_role_eq hr (by decide) (by decide)
    have hclosable : ∀ n ∈ ["pre", "listing"], closableElements.contains n = true := by decide
    exact h.endInBody_closable (hclosable name hmem)
  | item items =>
    obtain ⟨hitems, hmem⟩ := mem_of_role_eq_item hr
    refine h.endInBody_item ?_
    rcases hitems with rfl | rfl
    · rw [List.mem_singleton.1 hmem]
      decide
    · exact List.mem_cons_of_mem _ hmem
  | button =>
    have hmem : name ∈ ["button"] := mem_of_role_eq hr (by decide) (by decide)
    exact h.endInBody_closable (List.mem_singleton.1 hmem ▸ (by decide))
  | option =>
    have hmem : name ∈ ["optgroup", "option"] := mem_of_role_eq hr (by decide) (by decide)
    have hother : ∀ n ∈ ["optgroup", "option"], n ∉ closedElements := by decide
    rw [endInBody_of_notMem b (hother name hmem), h.closeNamed_self]
  | ruby =>
    have hmem : name ∈ ["rb", "rp", "rt", "rtc"] := mem_of_role_eq hr (by decide) (by decide)
    have hother : ∀ n ∈ ["rb", "rp", "rt", "rtc"], n ∉ closedElements := by decide
    rw [endInBody_of_notMem b (hother name hmem), h.closeNamed_self]

end Stands

end Builder

end Html

end LiterateLinks
