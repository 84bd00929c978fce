import Mathlib.Tactic.Common
import LiterateLinks.Proofs.Html.Body

/-!
# Elements that hold other elements

`Builder.Enters` is what the content of an element needs to know of its start tag: the element is
open, the state is again one of the body, and whatever is added to the element, its end tag leaves
the state that there was before the start tag.

Plain elements are easy.  Elements that hold a page of their own put a marker on the list of
formatting elements, a form is remembered, and formatting elements are put on the list themselves
and are closed by a search through it.  `Builder.Stands.enters` puts the roles together.
-/

namespace LiterateLinks

namespace Html

namespace Builder

open Lexer (startTag)

/-! ### The body -/

/-- The mode is this one, and it fits the open elements. -/
structure InMode (b : Builder) (m : Mode) : Prop where
  mode : b.mode = m
  fitting : b.fittingMode b.stack = m

/-- The state is that of the content of the body. -/
abbrev InBody (b : Builder) : Prop :=
  InMode b .inBody

/-- The elements that ask for a mode of their own. -/
def modeElements : List String :=
  ["select", "td", "th", "tr", "tbody", "thead", "tfoot", "caption", "colgroup", "table",
    "template", "head", "body", "frameset", "html"]

/-- The other elements ask for no mode. -/
lemma modeFor_eq_none (b : Builder) {name : String} (h : name ∉ modeElements)
    (attributes : List Attribute) (outer : List Nat) :
    b.modeFor { name, attributes } outer = none := by
  simp only [modeElements, List.mem_cons, List.not_mem_nil, or_false, not_or] at h
  simp [modeFor, h]

/-- The mode stays the same while nodes are added. -/
lemma InMode.of_grows {b b' : Builder} {m : Mode} {names : List String} {ns : List Node}
    (hmode : InMode b m) (h : Stands b names) (hgrows : Grows b b' ns) : InMode b' m where
  mode := (congrArg Builder.mode hgrows.frame :).trans hmode.mode
  fitting := by
    rw [hgrows.stack_eq, ← hmode.fitting]
    exact fittingMode_congr (fun _ hi => h.tag_eq (fun _ hj => hgrows.arena.kind?_eq hj) hi)
      (congrArg Builder.templateModes hgrows.frame :) (congrArg Builder.head hgrows.frame :)

/-- The state stays in the body when an element is opened that asks for no mode of its own. -/
lemma InBody.push {b opened : Builder} {names : List String} (hbody : InBody b) (h : Stands b names)
    {target i : Nat} {tag : Tag} {contents : Option Nat}
    (hopened : b.arena.Opened opened.arena target tag contents i) (htag : tag.vocabulary = .html)
    (hname : tag.name ∉ modeElements) (hstack : opened.stack = i :: b.stack)
    (hmode : opened.mode = b.mode) (htemplates : opened.templateModes = b.templateModes)
    (hhead : opened.head = b.head) : InBody opened where
  mode := hmode.trans hbody.mode
  fitting := by
    have hcurrent : opened.tag i = tag := by
      rw [Builder.tag, Arena.tag?, hopened.slot_eq]
      rfl
    have hfor : opened.modeFor (opened.tag i) b.stack = none := by
      obtain ⟨name, attributes, vocabulary⟩ := tag
      obtain rfl : vocabulary = .html := htag
      rw [hcurrent]
      exact modeFor_eq_none opened hname attributes b.stack
    rw [hstack, fittingMode, hfor, ← hbody.fitting]
    exact fittingMode_congr (fun _ hj => h.tag_eq (fun _ hk => hopened.kind?_eq hk) hj)
      htemplates hhead

/-! ### Entering and leaving an element -/

/-- The state in an element of the body that has just been opened.  Whatever is added to the
element, its end tag closes it and nothing else. -/
structure Enters (b : Builder) (names : List String) (tag : Tag) (skip : Bool) (opened : Builder) :
    Prop where
  arena : b.arena.Opened opened.arena b.current tag none opened.current
  skipLineFeed : opened.skipLineFeed = skip
  stands : Stands { opened with skipLineFeed := false } (tag.name :: names)
  inBody : InBody { opened with skipLineFeed := false }
  leaves : ∀ {inner : Builder} {ns : List Node},
    Grows { opened with skipLineFeed := false } inner ns →
    ∃ closed, inner.endInBody tag.name = .done closed ∧ closed.arena = inner.arena ∧
      closed.frame = b.frame ∧ Thins closed.formatting b.formatting

/-- The roles of elements that hold other elements. -/
def Role.isContainer (r : Role) : Bool :=
  r.isPlain || r == .formatting || r == .enclosing || r == .form

/-- Elements that hold other elements are not in a group of those that do not. -/
lemma notMem_of_isContainer {name : String} {group : List String}
    (hgroup : ∀ n ∈ group, (role n).isContainer = false) (h : (role name).isContainer = true) :
    name ∉ group := by
  intro hmem
  rw [hgroup name hmem] at h
  cases h

/-- Elements that hold other elements ask for no mode. -/
lemma notMem_modeElements {name : String} (h : (role name).isContainer = true) :
    name ∉ modeElements :=
  notMem_of_isContainer (by decide +kernel) h

/-- Closing an element after nodes have been added to it. -/
lemma Grows.frame_pop {b b' : Builder} {ns : List Node} (h : Grows b b' ns) :
    b'.pop.frame = b.pop.frame :=
  (congrArg (fun f : Builder => { f with stack := f.stack.tail }) h.frame :)

/-- An element that is not open is not found. -/
lemma seeks_eq_false (stops : String → Bool) {wanted : String} {names : List String}
    (h : wanted ∉ names) : seeks stops (· == wanted) names = false := by
  induction names with
  | nil => rfl
  | cons name names ih =>
    simp only [List.mem_cons, not_or] at h
    simp [seeks, Ne.symm h.1, ih h.2]

namespace Stands

variable {b : Builder} {name : String} {names : List String} {tag : Tag}

/-- No line feed is left out. -/
lemma frame_of_skipLineFeed (h : Stands b names) {b' : Builder}
    (hb' : b'.frame = { b.frame with skipLineFeed := false }) : b'.frame = b.frame := by
  rw [hb', ← h.skipLineFeed]
  rfl

/-- A plain element is entered by its start tag. -/
lemma enters_of_isPlain (h : Stands b (name :: names)) (hbody : InBody b)
    (htag : tag.vocabulary = .html) (hrole : (role tag.name).isPlain = true)
    (hfits : fits (name :: names) tag.name (role tag.name) = true) :
    Enters b (name :: names) tag (decide (role tag.name = .preformatted))
      (b.startInBody (startTag tag)) := by
  have hmode : tag.name ∉ modeElements := notMem_modeElements (by simp [Role.isContainer, hrole])
  have hopens : Opens b (htmlTag (startTag tag)) (decide (role tag.name = .preformatted))
      (b.startInBody (startTag tag)) := h.opens_startInBody hrole hfits
  rw [htmlTag_startTag htag] at hopens
  obtain ⟨arena, i, ok, hopened, harena⟩ := hopens
  rw [hopened]
  have hname : tag.name ≠ "template" := fun heq => hmode (heq ▸ by decide)
  have hstands :
      Stands { b with arena, stack := i :: b.stack, framesetOk := ok, skipLineFeed := false }
      (tag.name :: name :: names) :=
    h.push harena htag hname rfl (fun _ _ hmem => Or.inl hmem) (Or.inl rfl)
      h.fostering rfl h.textKind
  refine ⟨harena, rfl, hstands, hbody.push h harena htag hmode rfl rfl rfl rfl, fun hgrows => ?_⟩
  refine ⟨_, (hstands.of_grows hgrows).endInBody_eq_pop hrole, rfl, ?_, hgrows.formatting⟩
  exact hgrows.frame_pop.trans (h.frame_of_skipLineFeed rfl)

/-- An element that holds a page of its own is entered by its start tag. -/
lemma enters_of_enclosing (h : Stands b (name :: names)) (hbody : InBody b)
    (htag : tag.vocabulary = .html) (hmem : tag.name ∈ enclosingElements) :
    Enters b (name :: names) tag false (b.startInBody (startTag tag)) := by
  have hother : ∀ n ∈ enclosingElements, blockElements.contains n = false ∧
      headings.contains n = false ∧ misplacedElements.contains n = false ∧ n ≠ "template" ∧
      n ∉ modeElements ∧ closableElements.contains n = false ∧
        formattingElements.contains n = false ∧
      impliedEnd.contains n = false := by decide
  obtain ⟨hblock, hheading, hmisplaced, htemplate, hmode, hclosable, hformatting, himplied⟩ :=
    hother tag.name hmem
  have hstart : b.startInBody (startTag tag) =
      ((b.reconstruct.insertHtml (startTag tag)).addMarker).noFrameset := by
    unfold startInBody
    exact (if_neg (ne_true_of_eq_false hblock)).trans <|
      (if_neg (ne_true_of_eq_false hheading)).trans <|
      (if_neg (ne_true_of_eq_false hmisplaced)).trans <| if_pos (List.contains_iff_mem.2 hmem)
  obtain ⟨arena, i, ok, hopened, harena⟩ : Opens b (htmlTag (startTag tag)) false
      (b.insertHtml (startTag tag)) := h.opens_insertHtml htemplate
  rw [htmlTag_startTag htag] at harena
  rw [hstart, h.reconstruct_eq, hopened]
  have hstands : Stands
      { b with
        arena, stack := i :: b.stack, formatting := .marker :: b.formatting, framesetOk := false,
        skipLineFeed := false } (tag.name :: name :: names) :=
    h.push harena htag htemplate rfl (fun _ _ hmem => Or.inl (by simpa using hmem)) (Or.inl rfl)
      h.fostering rfl h.textKind
  refine ⟨harena, rfl, hstands, hbody.push h harena htag hmode rfl rfl rfl rfl,
    fun {inner ns} hgrows => ?_⟩
  have hinner := hstands.of_grows hgrows
  obtain ⟨entries, hentries, hthins⟩ := hgrows.formatting.of_cons_marker
  have hclose : inner.closeImplied = inner :=
    popWhile_eq_self ((hinner.isHtmlIn_currentTag impliedEnd).trans himplied)
  have hend : inner.endInBody tag.name = .done inner.pop.clearFormatting := by
    unfold endInBody
    rw [if_neg (ne_true_of_eq_false hclosable), if_neg (ne_true_of_eq_false hheading),
      if_neg (ne_true_of_eq_false hformatting), if_pos (List.contains_iff_mem.2 hmem),
      hinner.nameInScope_self, if_pos rfl, hclose, hinner.popThrough_self]
  have hcleared : inner.pop.clearFormatting.formatting = entries := by
    have hpop : inner.pop.formatting = .marker :: entries := hentries
    rw [clearFormatting, hpop]
    rfl
  refine ⟨_, hend, rfl, hgrows.frame_pop.trans (h.frame_of_skipLineFeed rfl), ?_⟩
  rw [hcleared]
  exact hthins

/-- No template is open. -/
lemma hasOpen_template (h : Stands b names) : b.hasOpen "template" = false := by
  refine Bool.eq_false_iff.2 fun hopen => ?_
  obtain ⟨i, hi, htemplate⟩ := List.any_eq_true.1 hopen
  obtain ⟨open', hopen', attributes, htag⟩ := exists_tag_of_mem h.tags hi
  rw [Builder.tag, htag] at htemplate
  have hname : open' = "template" := by simpa [isHtml] using htemplate
  exact h.template (hname ▸ hopen')

/-- The end tag of a form that is the innermost open element closes and forgets it. -/
lemma closeForm_self (h : Stands b ("form" :: names)) (hform : b.form = some b.current) :
    b.closeForm = { b.pop with form := none } := by
  obtain ⟨outer, attributes, hstack, htag⟩ := h.exists_stack_eq
  have hscope : { b with form := none }.inScope defaultScope (· == b.current) = true := by
    rw [inScope, hstack, searchScope, beq_self_eq_true, Bool.true_or]
  have hclose : { b with form := none }.closeImplied = { b with form := none } :=
    popWhile_eq_self ((h.isHtmlIn_currentTag impliedEnd).trans (by decide))
  have hremoved : b.stack.filter (· != b.current) = b.stack.tail := by
    have hnotMem : b.current ∉ outer := (List.nodup_cons.1 (hstack ▸ h.nodup)).1
    rw [hstack, List.filter_cons_of_neg (by simp), List.tail_cons]
    exact List.filter_eq_self.2 fun j hj => bne_iff_ne.2 fun heq => hnotMem (heq ▸ hj)
  rw [closeForm, h.hasOpen_template, hform]
  simp only [hscope, hclose, removeOpen, hremoved]
  rfl

/-- A form is entered by its start tag. -/
lemma enters_of_form (h : Stands b (name :: names)) (hbody : InBody b)
    (htag : tag.vocabulary = .html) (hname : tag.name = "form")
    (hp : holdsParagraph (name :: names) = false) (hform : "form" ∉ name :: names) :
    Enters b (name :: names) tag false (b.startInBody (startTag tag)) := by
  have hnone : b.form = none := h.form.resolve_right hform
  have hstart : b.startInBody (startTag tag) =
      { b.insertHtml (startTag tag) with form := some (b.insertHtml (startTag tag)).current } := by
    have hopen : b.startInBody (startTag tag) = b.openForm (startTag tag) := by
      obtain ⟨tagName, attributes, vocabulary⟩ := tag
      obtain rfl : tagName = "form" := hname
      rfl
    rw [hopen]
    simp only [openForm, h.hasOpen_template, hnone, h.closeParagraphInScope_eq hp]
    rfl
  have htemplate : tag.name ≠ "template" := by rw [hname]; decide
  obtain ⟨arena, i, ok, hopened, harena⟩ : Opens b (htmlTag (startTag tag)) false
      (b.insertHtml (startTag tag)) := h.opens_insertHtml htemplate
  rw [htmlTag_startTag htag] at harena
  rw [hstart, hopened]
  have hstands : Stands
      { b with
        arena, stack := i :: b.stack, framesetOk := ok, form := some i, skipLineFeed := false }
      (tag.name :: name :: names) :=
    h.push harena htag htemplate rfl (fun _ _ hmem => Or.inl hmem) (Or.inr hname) h.fostering rfl
      h.textKind
  have hmode : tag.name ∉ modeElements := by rw [hname]; decide
  refine ⟨harena, rfl, hstands, hbody.push h harena htag hmode rfl rfl rfl rfl,
    fun {inner ns} hgrows => ?_⟩
  have hinner : Stands inner ("form" :: name :: names) := hname ▸ hstands.of_grows hgrows
  have hknown : inner.form = some inner.current := by
    rw [hgrows.current_eq]
    exact (congrArg Builder.form hgrows.frame :)
  have hend : inner.endInBody tag.name = .done inner.closeForm := by rw [hname]; rfl
  refine ⟨_, hend.trans (congrArg Step.done (hinner.closeForm_self hknown)), rfl, ?_,
    hgrows.formatting⟩
  have hframe : { inner.pop with form := none }.frame =
      { b with form := none, skipLineFeed := false }.frame :=
    (congrArg (fun f : Builder => { f with stack := f.stack.tail, form := none }) hgrows.frame :)
  rw [hframe, ← hnone, ← h.skipLineFeed]

/-! ### Formatting elements -/

/-- A formatting element is inserted and remembered; older entries may be forgotten. -/
lemma exists_insertFormatting_eq (h : Stands b (name :: names)) {start : StartTag}
    (hname : start.name ≠ "template") :
    ∃ arena i entries, b.insertFormatting start =
        { b with
          arena, stack := i :: b.stack, formatting := .element i start :: entries,
          skipLineFeed := false } ∧
      b.arena.Opened arena b.current (htmlTag start) none i ∧ Thins entries b.formatting := by
  have htemplate : Arena.isTemplate (htmlTag start) = false := by
    simp [Arena.isTemplate, htmlTag, hname]
  -- Forgetting the oldest of many equal entries only removes an entry.
  obtain ⟨entries, hthins, hinsert⟩ : ∃ entries, Thins entries b.formatting ∧
      b.insertFormatting start =
        { { b with formatting := entries }.insertOpen (htmlTag start) with
          formatting :=
            .element ({ b with formatting := entries }.insertOpen (htmlTag start)).current start ::
              entries } := by
    simp only [insertFormatting]
    split
    · split
      · exact ⟨_, thins_removeFormatting b _, rfl⟩
      · exact ⟨b.formatting, .refl _, rfl⟩
    · exact ⟨b.formatting, .refl _, rfl⟩
  have hkept : Stands { b with formatting := entries } (name :: names) :=
    h.congr rfl (fun _ _ => rfl) fun _ _ hmem => hthins.subset hmem
  obtain ⟨arena, i, hopen, hopened⟩ := hkept.exists_insertOpen_eq htemplate
  refine ⟨arena, i, entries, ?_, hopened, hthins⟩
  rw [hinsert, hopen, ← h.skipLineFeed]
  rfl

/-- The recent entries hold no element of a name that is not open. -/
lemma find?_recentFormatting_eq_none (h : Stands b names) {wanted : String}
    (hwanted : wanted ∉ names) :
    b.recentFormatting.find? (fun entry => isHtml (b.tag entry.1) wanted) = none := by
  refine List.find?_eq_none.2 fun entry hentry hhtml => hwanted ?_
  obtain ⟨node, start⟩ := entry
  have hnode : node ∈ b.stack := (h.formatting node start (mem_formatting_of_mem_recent hentry)).1
  obtain ⟨open', hopen, attributes, htag⟩ := exists_tag_of_mem h.tags hnode
  have hname : open' = wanted := by simpa [Builder.tag, htag, isHtml] using hhtml
  exact hname ▸ hopen

/-- The start tag of a formatting element that fits opens it. -/
lemma startInBody_formatting (h : Stands b names) {start : StartTag}
    (hmem : start.name ∈ formattingElements)
    (hfits : start.name ∈ ["a", "nobr"] → start.name ∉ names) :
    b.startInBody start = b.insertFormatting start := by
  obtain ⟨tagName, attributes, selfClosing⟩ := start
  have hstart : tagName ∉ ["a", "nobr"] →
      b.startInBody { name := tagName, attributes, selfClosing } =
      b.reconstruct.insertFormatting { name := tagName, attributes, selfClosing } := by
    intro hnot
    simp only [formattingElements, List.mem_cons, List.not_mem_nil, or_false] at hmem
    rcases hmem with rfl | rfl | rfl | rfl | rfl | rfl | rfl | rfl | rfl | rfl | rfl | rfl | rfl |
      rfl
    · exact absurd (by decide) hnot
    iterate 6 rfl
    · exact absurd (by decide) hnot
    iterate 6 rfl
  by_cases hspecial : tagName ∈ ["a", "nobr"]
  · have hnot : tagName ∉ names := hfits hspecial
    simp only [List.mem_cons, List.not_mem_nil, or_false] at hspecial
    rcases hspecial with rfl | rfl
    · have hopen : b.startInBody { name := "a", attributes, selfClosing } =
          b.openAnchor { name := "a", attributes, selfClosing } := rfl
      rw [hopen, openAnchor, h.find?_recentFormatting_eq_none hnot]
      exact congrArg (insertFormatting · _) h.reconstruct_eq
    · have hopen : b.startInBody { name := "nobr", attributes, selfClosing } =
          b.openNobr { name := "nobr", attributes, selfClosing } := rfl
      have hscope : b.nameInScope defaultScope "nobr" = false :=
        (h.nameInScope_eq "nobr").trans (seeks_eq_false stopsSearch hnot)
      rw [hopen]
      simp only [openNobr, h.reconstruct_eq, hscope]
      rfl
  · rw [hstart hspecial, h.reconstruct_eq]

/-- The end tag of a formatting element that is the innermost one closes it. -/
lemma adopt_self (h : Stands b (name :: names)) {start : StartTag} {outer : List Formatting}
    (hname : start.name = name) (hentry : b.formatting = .element b.current start :: outer) :
    b.adopt name = { b.pop with formatting := outer.filter fun e => !isEntryOf b.current e } := by
  obtain ⟨stack, attributes, hstack, htag⟩ := h.exists_stack_eq
  have hformatting : b.isFormatting b.current = true := by
    simp [isFormatting, hentry, isEntryOf]
  have hfind : b.recentFormatting.find? (fun entry => entry.2.name == name) =
      some (b.current, start) := by
    rw [recentFormatting, hentry]
    simp [hname]
  have hmem : b.stack.contains b.current = true := by rw [hstack]; simp
  have hscope : b.inScope defaultScope (· == b.current) = true := by
    rw [inScope, hstack, searchScope, beq_self_eq_true, Bool.true_or]
  have htake : b.stack.takeWhile (· != b.current) = [] := by
    rw [hstack]
    exact List.takeWhile_cons_of_neg (by simp)
  have hdrop : b.stack.dropWhile (· != b.current) = b.stack := by
    rw [hstack]
    exact List.dropWhile_cons_of_neg (by simp)
  have hfilter : b.formatting.filter (fun e => !isEntryOf b.current e) =
      outer.filter fun e => !isEntryOf b.current e := by
    rw [hentry]
    exact List.filter_cons_of_neg (by simp [isEntryOf])
  have honce : b.adoptOnce name =
      ({ b.pop with formatting := outer.filter fun e => !isEntryOf b.current e }, false) := by
    rw [adoptOnce, hfind]
    simp only [hmem, hscope, htake, hdrop, List.reverse_nil, List.find?_nil, Bool.not_true,
      Bool.false_eq_true, if_false, removeFormatting]
    rw [← hfilter]
    rfl
  rw [adopt, hformatting, Bool.not_true, Bool.and_false, if_neg (by decide), adoptRounds, honce]
  rfl

/-- The end tag of a formatting element that is the innermost one but no longer on the list closes
it like any other element. -/
lemma adopt_of_not_isFormatting (h : Stands b (name :: names))
    (hnone : b.isFormatting b.current = false) : b.adopt name = b.pop := by
  have hself : b.currentIs name = true :=
    (h.isHtml_currentTag name).trans (beq_self_eq_true _)
  rw [adopt, hself, hnone]
  rfl

/-- Only open elements are on the list. -/
lemma any_isEntryOf_eq_false (h : Stands b names) {entries : List Formatting}
    (hentries : entries ⊆ b.formatting) {i : Nat} (hi : i ∉ b.stack) :
    entries.any (isEntryOf i) = false := by
  refine List.any_eq_false.2 fun entry hentry => ?_
  cases entry with
  | marker => simp [isEntryOf]
  | element node start =>
    have hnode : node ∈ b.stack := (h.formatting node start (hentries hentry)).1
    have hne : node ≠ i := fun heq => hi (heq ▸ hnode)
    simpa [isEntryOf] using hne

/-- A formatting element is entered by its start tag. -/
lemma enters_of_formatting (h : Stands b (name :: names)) (hbody : InBody b)
    (htag : tag.vocabulary = .html) (hmem : tag.name ∈ formattingElements)
    (hfits : tag.name ∈ ["a", "nobr"] → tag.name ∉ name :: names) :
    Enters b (name :: names) tag false (b.startInBody (startTag tag)) := by
  have hother : ∀ n ∈ formattingElements, n ≠ "template" ∧ n ∉ modeElements ∧
      closableElements.contains n = false ∧ headings.contains n = false := by decide
  obtain ⟨htemplate, hmode, hclosable, hheading⟩ := hother tag.name hmem
  have hstart : b.startInBody (startTag tag) = b.insertFormatting (startTag tag) :=
    h.startInBody_formatting hmem hfits
  have hname : (startTag tag).name ≠ "template" := htemplate
  obtain ⟨arena, i, entries, hinsert, harena, hthins⟩ := h.exists_insertFormatting_eq hname
  rw [htmlTag_startTag htag] at harena
  rw [hstart, hinsert]
  have hstands : Stands
      { b with
        arena, stack := i :: b.stack, formatting := .element i (startTag tag) :: entries,
        skipLineFeed := false } (tag.name :: name :: names) := by
    refine h.push harena htag htemplate rfl (fun node start hentry => ?_) (Or.inl rfl)
      h.fostering rfl
      h.textKind
    rcases List.mem_cons.1 hentry with heq | hentry
    · obtain ⟨rfl, rfl⟩ := Formatting.element.inj heq
      exact Or.inr ⟨rfl, htmlTag_startTag htag⟩
    · exact Or.inl (hthins.subset hentry)
  refine ⟨harena, rfl, hstands, hbody.push h harena htag hmode rfl rfl rfl rfl,
    fun {inner ns} hgrows => ?_⟩
  have hinner := hstands.of_grows hgrows
  have hend : inner.endInBody tag.name = .done (inner.adopt tag.name) := by
    unfold endInBody
    rw [if_neg (ne_true_of_eq_false hclosable), if_neg (ne_true_of_eq_false hheading),
      if_pos (List.contains_iff_mem.2 hmem)]
  have hcurrent : inner.current = i := hgrows.current_eq
  have hpop : inner.pop.frame = b.frame := hgrows.frame_pop.trans (h.frame_of_skipLineFeed rfl)
  obtain ⟨left, hleft, hthins'⟩ := hgrows.formatting.of_cons
  have holder : Thins left b.formatting := hthins'.trans hthins
  rcases hleft with hleft | hleft
  · -- The entry is still there and removed together with the element.
    have hentry : inner.formatting = .element inner.current (startTag tag) :: left :=
      hcurrent ▸ hleft
    have hadopt := hinner.adopt_self rfl hentry
    refine ⟨_, hend.trans (congrArg Step.done hadopt), rfl, hpop, ?_⟩
    exact Thins.trans ⟨_, rfl, rfl⟩ holder
  · -- The entry has been forgotten for newer ones.
    have hnotMem : i ∉ b.stack := (List.nodup_cons.1 hstands.nodup).1
    have hnone : inner.isFormatting inner.current = false := by
      rw [isFormatting, hleft, hcurrent]
      exact h.any_isEntryOf_eq_false (fun _ hentry => holder.subset hentry) hnotMem
    have hadopt := hinner.adopt_of_not_isFormatting hnone
    refine ⟨_, hend.trans (congrArg Step.done hadopt), rfl, hpop, ?_⟩
    have hformatting : inner.pop.formatting = left := hleft
    rw [hformatting]
    exact holder

/-- An element that holds other elements is entered by its start tag if that closes nothing. -/
lemma enters (h : Stands b (name :: names)) (hbody : InBody b) (htag : tag.vocabulary = .html)
    (hrole : (role tag.name).isContainer = true)
    (hfits : fits (name :: names) tag.name (role tag.name) = true) :
    Enters b (name :: names) tag (decide (role tag.name = .preformatted))
      (b.startInBody (startTag tag)) := by
  by_cases hplain : (role tag.name).isPlain = true
  · exact h.enters_of_isPlain hbody htag hplain hfits
  · simp only [Role.isContainer, hplain, Bool.false_or, Bool.or_eq_true, beq_iff_eq] at hrole
    rcases hrole with (hr | hr) | hr
    · have hmem : tag.name ∈ formattingElements := mem_of_role_eq hr (by decide) (by decide)
      rw [hr] at hfits ⊢
      refine h.enters_of_formatting hbody htag hmem fun hspecial hopen => ?_
      simp [fits, hspecial, hopen] at hfits
    · have hmem : tag.name ∈ enclosingElements := mem_of_role_eq hr (by decide) (by decide)
      rw [hr]
      exact h.enters_of_enclosing hbody htag hmem
    · have hmem : tag.name ∈ ["form"] := mem_of_role_eq hr (by decide) (by decide)
      simp only [hr, fits, Bool.and_eq_true, Bool.not_eq_true'] at hfits
      rw [hr]
      refine h.enters_of_form hbody htag (List.mem_singleton.1 hmem) hfits.1 ?_
      simpa using hfits.2

end Stands

end Builder

end Html

end LiterateLinks
