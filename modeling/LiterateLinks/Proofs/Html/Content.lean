import Mathlib.Tactic.Common
import LiterateLinks.Proofs.Html.Builder
import LiterateLinks.Proofs.Html.Lexer

/-!
# Elements that hold text only, and templates

A tag or a comment that was written is read by the rules of the mode
(`Builder.Stands.reads_startTag` and the lemmas after it).  Two kinds of elements are read here from
their start tag to their end tag, in any mode: those that hold text only
(`Builder.InText.exists_reads`), and templates, which are written without their contents and come
out empty (`Builder.Stands.exists_reads_template`).
-/

namespace LiterateLinks

namespace Html

namespace Builder

open Lexer (closeTag element? holdsText isSteadyComment isSteadyTag isTagName openTag startTag
  writtenComment writtenText)

/-! ### Tags and comments -/

namespace Stands

variable {b b' : Builder} {names : List String}

/-- A written start tag is read by the rules of the mode. -/
lemma reads_startTag (h : Stands b names) {tag : Tag} (hsteady : isSteadyTag tag = true)
    (hstep : b.stepMode (.startTag (startTag tag)) = .done b') (rest : List Char) :
    Reads b (openTag tag ++ rest) b' rest := by
  have hfeed : b.feed (.startTag (startTag tag)) = b' := by
    rw [h.feed_eq.1, take_of_step_eq_done ((h.step_eq _).trans hstep)]
  rw [← hfeed]
  refine reads_token ?_ (by simp [openTag]) (by simp) (by rw [h.textKind]; rfl)
  rw [h.textKind]
  exact Lexer.next_openTag hsteady _ _

/-- A written end tag is read by the rules of the mode. -/
lemma reads_endTag (h : Stands b names) {element : String}
    (helement : isTagName element = true) (hstep : b.stepMode (.endTag element) = .done b')
    (rest : List Char) : Reads b (closeTag element ++ rest) b' rest := by
  have hfeed : b.feed (.endTag element) = b' := by
    rw [h.feed_eq.2.1, take_of_step_eq_done ((h.step_eq _).trans hstep)]
  rw [← hfeed]
  refine reads_token ?_ (by simp [closeTag]) (by simp) (by rw [h.textKind]; rfl)
  rw [h.textKind]
  exact Lexer.next_closeTag helement (Or.inl rfl) _ _

/-- A written comment is read by the rules of the mode. -/
lemma reads_comment (h : Stands b names) {content : String}
    (hsteady : isSteadyComment content = true) (hstep : b.stepMode (.comment content) = .done b')
    (rest : List Char) : Reads b (writtenComment content ++ rest) b' rest := by
  have hfeed : b.feed (.comment content) = b' := by
    rw [h.feed_eq.2.2, take_of_step_eq_done ((h.step_eq _).trans hstep)]
  rw [← hfeed]
  refine reads_token ?_ (by simp [writtenComment]) (by simp) (by rw [h.textKind]; rfl)
  rw [h.textKind]
  exact Lexer.next_writtenComment hsteady _ _

end Stands

/-! ### Elements that hold text only -/

/-- The node of a text, if there is any text. -/
def textNodes (text : List Char) : List Node :=
  if text.isEmpty then [] else [.text (String.ofList text)]

/-- The state in an element that holds text of the given kind only, opened in the state `b`. -/
structure InText (b opened : Builder) (tag : Tag) (kind : TextKind) (skip : Bool) : Prop where
  arena : b.arena.Opened opened.arena b.current tag none opened.current
  frame : opened.frame =
    { b.frame with
      stack := opened.current :: b.stack, mode := .text, textKind := kind, skipLineFeed := skip }
  returnMode : opened.returnMode = b.mode
  formatting : opened.formatting = b.formatting

namespace InText

variable {b opened : Builder} {tag : Tag} {kind : TextKind} {skip : Bool}

/-- The mode is that of text. -/
lemma mode_eq (h : InText b opened tag kind skip) : opened.mode = .text :=
  (congrArg Builder.mode h.frame :)

/-- The kind of text. -/
lemma textKind_eq (h : InText b opened tag kind skip) : opened.textKind = kind :=
  (congrArg Builder.textKind h.frame :)

/-- Whether a line feed is left out. -/
lemma skipLineFeed_eq (h : InText b opened tag kind skip) : opened.skipLineFeed = skip :=
  (congrArg Builder.skipLineFeed h.frame :)

/-- The element is in its slot. -/
lemma current_lt_size (h : InText b opened tag kind skip) :
    opened.current < opened.arena.slots.size := by
  rw [h.arena.size_eq]
  omega

/-- The tag of the element stays the same. -/
lemma tag_eq (h : InText b opened tag kind skip) {inner : Builder}
    (hkind : inner.arena.kind? opened.current = opened.arena.kind? opened.current) :
    inner.tag opened.current = tag := by
  rw [Builder.tag, Arena.tag?_eq_bind, hkind, ← Arena.tag?_eq_bind, Arena.tag?, h.arena.slot_eq]
  rfl

/-- Characters are added to the text. -/
lemma insertsEach (h : InText b opened tag kind skip) (hfostering : b.fostering = false)
    (hvocabulary : tag.vocabulary = .html) (hname : tag.name ≠ "template") (text : List Char) :
    InsertsEach { opened with skipLineFeed := false } text := by
  intro arena ok hkind c _
  refine ⟨ok, take_of_step_eq_done ?_⟩
  let inner : Builder := { opened with arena, framesetOk := ok, skipLineFeed := false }
  have htag : inner.tag opened.current = tag := h.tag_eq (hkind _ h.current_lt_size)
  have hfostering : inner.fostering = false :=
    (congrArg Builder.fostering h.frame :).trans hfostering
  have hplace : inner.placeIn opened.current = .last opened.current := by
    simp [placeIn, htag, hfostering, isHtml, hname]
  have hstep : inner.step (.char c) = .done (inner.insertChar c) := by
    rw [step_eq_stepMode (by rw [currentTag]; exact htag ▸ hvocabulary), stepMode]
    have hmode : inner.mode = .text := h.mode_eq
    rw [hmode]
    rfl
  refine hstep.trans ?_
  rw [Builder.insertChar]
  exact congrArg (fun place => Step.done { inner with arena := arena.insertChar place c }) hplace

/-- The text of the element is read. -/
lemma exists_feed_text_eq (h : InText b opened tag kind skip) (hfostering : b.fostering = false)
    (hvocabulary : tag.vocabulary = .html) (hname : tag.name ≠ "template") (text : List Char) :
    ∃ arena ok, opened.feed (.text text) =
        { opened with arena, framesetOk := ok, skipLineFeed := false } ∧
      opened.arena.Extends arena opened.current
        (textNodes (if skip then dropLineFeed text else text)) := by
  rw [feed_text, h.skipLineFeed_eq]
  generalize (if skip then dropLineFeed text else text) = shown
  by_cases hshown : shown = []
  · subst hshown
    exact ⟨opened.arena, opened.framesetOk, rfl, .refl _ _⟩
  · have hlast : opened.arena.endsInText opened.current = false := h.arena.endsInText_eq
    obtain ⟨arena, ok, hfold, hextends⟩ :=
      exists_text_eq (b := { opened with skipLineFeed := false }) h.current_lt_size hlast hshown
        (h.insertsEach hfostering hvocabulary hname shown)
    have hnodes : textNodes shown = [.text (String.ofList shown)] := by simp [textNodes, hshown]
    exact ⟨arena, ok, hfold, hnodes ▸ hextends⟩

/-- The end tag closes the element. -/
lemma grows_feed_endTag (h : InText b opened tag kind skip)
    (hcurrent : b.current < b.arena.slots.size)
    (hvocabulary : tag.vocabulary = .html) (hkind : b.textKind = .markup)
    (hskip : b.skipLineFeed = false) {arena : Arena} {ns : List Node}
    (hns : opened.arena.Extends arena opened.current ns) (ok skip' : Bool) :
    Grows b ({ opened with arena, framesetOk := ok, skipLineFeed := skip' }.feed (.endTag tag.name))
      [.element tag none ns] := by
  let inner : Builder := { opened with arena, framesetOk := ok, skipLineFeed := false }
  have htag : inner.tag opened.current = tag := h.tag_eq (hns.kind?_eq h.current_lt_size)
  have htake : inner.take (.endTag tag.name) =
      { inner.pop with mode := inner.returnMode, textKind := .markup } := by
    refine take_of_step_eq_done ?_
    rw [step_eq_stepMode (by rw [currentTag]; exact htag ▸ hvocabulary), stepMode]
    have hmode : inner.mode = .text := h.mode_eq
    rw [hmode]
    rfl
  have hfeed :
      { opened with arena, framesetOk := ok, skipLineFeed := skip' }.feed (.endTag tag.name) =
      { inner.pop with mode := inner.returnMode, textKind := .markup } := htake
  rw [hfeed]
  have hstack : opened.stack = opened.current :: b.stack := (congrArg Builder.stack h.frame :)
  have hframe : { inner.pop with mode := inner.returnMode, textKind := .markup }.frame =
      b.frame := by
    calc { inner.pop with mode := inner.returnMode, textKind := .markup }.frame
        = { opened.frame with
            stack := opened.stack.tail, mode := opened.returnMode, textKind := .markup,
            skipLineFeed := false } := rfl
      _ = { b.frame with textKind := .markup, skipLineFeed := false } := by
          rw [h.frame, hstack, h.returnMode]
          rfl
      _ = b.frame := by
          rw [← hkind, ← hskip]
          rfl
  exact ⟨h.arena.extends_element hns hcurrent, hframe, h.formatting ▸ .refl _⟩

/-- The end tag of the element is read. -/
lemma exists_reads_closeTag (h : InText b opened tag kind skip)
    (hcurrent : b.current < b.arena.slots.size) (hvocabulary : tag.vocabulary = .html)
    (hmarkup : b.textKind = .markup) (hskip : b.skipLineFeed = false)
    (hname : isTagName tag.name = true) (hkind : element? kind = some tag.name) {rest : List Char}
    (hmark : Lexer.skipMark rest = rest) {arena : Arena} {ns : List Node}
    (hns : opened.arena.Extends arena opened.current ns) (ok skip' : Bool) :
    ∃ b', Reads { opened with arena, framesetOk := ok, skipLineFeed := skip' }
        (closeTag tag.name ++ rest) b' rest ∧ Grows b b' [.element tag none ns] := by
  let inner : Builder := { opened with arena, framesetOk := ok, skipLineFeed := skip' }
  have hnext : Lexer.next inner.textKind inner.isForeign (closeTag tag.name ++ rest) =
      (.endTag tag.name, rest) := by
    refine Lexer.next_closeTag hname (Or.inr ?_) _ rest
    exact h.textKind_eq.symm ▸ hkind
  have hresume : Lexer.resume inner.textKind (.endTag tag.name) rest = rest := by
    unfold Lexer.resume
    split
    · exact hmark
    · rfl
  refine ⟨_, reads_token hnext (by simp [closeTag]) (by simp) hresume, ?_⟩
  exact h.grows_feed_endTag hcurrent hvocabulary hmarkup hskip hns ok skip'

/-- An element that holds text only is read from after its start tag. -/
lemma exists_reads (h : InText b opened tag kind skip) {name : String} {names : List String}
    (hb : Stands b (name :: names)) (hvocabulary : tag.vocabulary = .html)
    (hname : isTagName tag.name = true) (hless : '<' ∉ tag.name.toList)
    (htemplate : tag.name ≠ "template") (hkind : element? kind = some tag.name) {text : List Char}
    (hsteady : ∀ c ∈ text, isSteady c = true) (hholds : holdsText kind text = true)
    {rest : List Char} (hmark : Lexer.skipMark rest = rest) :
    ∃ b', Reads opened (writtenText kind text ++ (closeTag tag.name ++ rest)) b' rest ∧
      Grows b b' [.element tag none (textNodes (if skip then dropLineFeed text else text))] := by
  by_cases hne : text = []
  · subst hne
    have hwritten : writtenText kind [] = [] := by cases kind <;> rfl
    have hnodes : textNodes (if skip then dropLineFeed [] else []) = [] := by cases skip <;> rfl
    rw [hwritten, hnodes]
    exact h.exists_reads_closeTag hb.current_lt_size hvocabulary hb.textKind hb.skipLineFeed hname
      hkind hmark (.refl _ _) opened.framesetOk opened.skipLineFeed
  · obtain ⟨arena, ok, hfeed, hextends⟩ :=
      h.exists_feed_text_eq hb.fostering hvocabulary htemplate text
    obtain ⟨b', hreads, hgrows⟩ :=
      h.exists_reads_closeTag hb.current_lt_size hvocabulary hb.textKind
      hb.skipLineFeed hname hkind hmark hextends ok false
    refine ⟨b', Reads.trans ?_ hreads, hgrows⟩
    rw [← hfeed]
    have hnext : Lexer.next opened.textKind opened.isForeign
        (writtenText kind text ++ (closeTag tag.name ++ rest)) =
          (.text text, closeTag tag.name ++ rest) := by
      rw [h.textKind_eq]
      exact Lexer.next_writtenText hname hless hkind hne hsteady hholds _ rest
    have hwritten : writtenText kind text ≠ [] := Lexer.writtenText_ne_nil kind hne
    exact reads_token hnext hwritten (by simp) (by rw [h.textKind_eq]; cases kind <;> rfl)

end InText

/-! ### The mode that fits the open elements -/

/-- The mode inside a selection depends on the tags of the elements around it. -/
lemma selectMode_congr {b b' : Builder} {stack : List Nat}
    (htag : ∀ i ∈ stack, b'.tag i = b.tag i) :
    b'.selectMode stack = b.selectMode stack := by
  induction stack with
  | nil => rfl
  | cons i outer ih =>
    have hi := htag i List.mem_cons_self
    have houter := ih fun j hj => htag j (List.mem_cons_of_mem i hj)
    simp only [selectMode, hi, houter]

/-- The mode that fits open elements depends on their tags, the templates and the head. -/
lemma fittingMode_congr {b b' : Builder} {stack : List Nat} (htag : ∀ i ∈ stack, b'.tag i = b.tag i)
    (htemplates : b'.templateModes = b.templateModes) (hhead : b'.head = b.head) :
    b'.fittingMode stack = b.fittingMode stack := by
  induction stack with
  | nil => rfl
  | cons i outer ih =>
    have hi := htag i List.mem_cons_self
    have hrest : ∀ j ∈ outer, b'.tag j = b.tag j := fun j hj => htag j (List.mem_cons_of_mem i hj)
    have hfor : b'.modeFor (b.tag i) outer = b.modeFor (b.tag i) outer := by
      unfold modeFor
      rw [selectMode_congr hrest, htemplates, hhead]
    simp only [fittingMode, hi, hfor, ih hrest]

/-- Open elements keep their tags while nodes are added. -/
lemma Stands.tag_eq {b : Builder} {names : List String} (h : Stands b names) {b' : Builder}
    (hkind : ∀ i, i < b.arena.slots.size → b'.arena.kind? i = b.arena.kind? i) {i : Nat}
    (hi : i ∈ b.stack) : b'.tag i = b.tag i := by
  rw [tag, tag, Arena.tag?_eq_bind, Arena.tag?_eq_bind, hkind i (h.lt_size hi)]

/-! ### Templates -/

/-- A template is opened. -/
lemma Stands.exists_openTemplate_eq {b : Builder} {name : String} {names : List String}
    (h : Stands b (name :: names)) {tag : StartTag}
    (htag : tag.name = "template") :
    ∃ arena i contents, b.openTemplate tag =
        { b with
          arena, stack := i :: b.stack, formatting := .marker :: b.formatting, framesetOk := false,
          mode := .inTemplate, templateModes := .inTemplate :: b.templateModes } ∧
      b.arena.Opened arena b.current (htmlTag tag) (some contents) i := by
  have hmarked : Stands b.addMarker (name :: names) :=
    h.congr rfl (fun _ _ => rfl) fun node tag hmem => by simpa [addMarker] using hmem
  have htemplate : Arena.isTemplate (htmlTag tag) = true := by
    simp [Arena.isTemplate, htmlTag, htag]
  refine ⟨_, _, _, ?_, Arena.opened_of_isTemplate b.arena h.current_lt_size htemplate⟩
  have hinsert := hmarked.insertNode_createElement (htmlTag tag)
  simp only [openTemplate, insertHtml, insertOpen, hinsert]
  rfl

/-- A template that has just been opened is closed again. -/
lemma Stands.closeTemplate_eq {b : Builder} {name : String} {names : List String}
    (h : Stands b (name :: names)) {tag : Tag} (hvocabulary : tag.vocabulary = .html)
    (htag : tag.name = "template") {arena : Arena} {i contents : Nat}
    (hopened : b.arena.Opened arena b.current tag (some contents) i) {opened : Builder}
    (hstate : opened =
      { b with
        arena, stack := i :: b.stack, formatting := .marker :: b.formatting, framesetOk := false,
        mode := .inTemplate, templateModes := .inTemplate :: b.templateModes }) :
    opened.closeTemplate =
      { b with arena, framesetOk := false, mode := b.fittingMode b.stack } := by
  have hcurrent : opened.currentTag = tag := by
    subst hstate
    exact currentTag_eq_of_opened hopened rfl
  have hhtml : isHtml opened.currentTag "template" = true := by
    simp [hcurrent, isHtml, hvocabulary, htag]
  have hopen : opened.hasOpen "template" = true := by
    have hmem : opened.current ∈ opened.stack := by rw [current, hstate]; exact List.mem_cons_self
    exact List.any_eq_true.2 ⟨opened.current, hmem, hhtml⟩
  have hthorough : isHtmlIn opened.currentTag thoroughImpliedEnd = false := by
    simp [hcurrent, isHtmlIn, htag, thoroughImpliedEnd, impliedEnd]
  rw [closeTemplate, if_pos hopen, popWhile_eq_self hthorough, popThrough_eq_pop hhtml]
  have hclear : opened.pop.clearFormatting =
      { b with
        arena, framesetOk := false, mode := .inTemplate,
        templateModes := .inTemplate :: b.templateModes } := by
    rw [hstate]
    rfl
  simp only [hclear, resetMode, List.tail_cons]
  have hfitting : { b with arena, framesetOk := false, mode := .inTemplate }.fittingMode b.stack =
      b.fittingMode b.stack :=
    fittingMode_congr (fun j hj => h.tag_eq (fun k hk => hopened.kind?_eq hk) hj) rfl rfl
  rw [hfitting]

/-- The element of a start tag that is read. -/
lemma htmlTag_startTag {tag : Tag} (h : tag.vocabulary = .html) : htmlTag (startTag tag) = tag := by
  obtain ⟨name, attributes, vocabulary⟩ := tag
  obtain rfl : vocabulary = .html := h
  rfl

/-- A template is read, without contents. -/
lemma Stands.exists_reads_template {b : Builder} {name : String} {names : List String}
    (h : Stands b (name :: names)) {tag : Tag}
    (hsteady : isSteadyTag tag = true) (htag : tag.name = "template")
    (hstep : b.stepMode (.startTag (startTag tag)) = .done (b.openTemplate (startTag tag)))
    (hfitting : b.fittingMode b.stack = b.mode) (rest : List Char) :
    ∃ b', Reads b (openTag tag ++ (closeTag "template" ++ rest)) b' rest ∧
      Grows b b' [.element tag (some []) []] := by
  have hvocabulary : tag.vocabulary = .html := Lexer.vocabulary_eq hsteady
  obtain ⟨arena, i, contents, hopen, hopened⟩ := h.exists_openTemplate_eq
    (show (startTag tag).name = "template" from htag)
  rw [htmlTag_startTag hvocabulary] at hopened
  have hclose := h.closeTemplate_eq hvocabulary htag hopened hopen
  generalize b.openTemplate (startTag tag) = opened at hstep hopen hclose
  have hstart : Reads b (openTag tag ++ (closeTag "template" ++ rest)) opened
      (closeTag "template" ++ rest) := h.reads_startTag hsteady hstep _
  have hend : Reads opened (closeTag "template" ++ rest) opened.closeTemplate rest := by
    have hcurrent : opened.currentTag = tag := by
      subst hopen
      exact currentTag_eq_of_opened hopened rfl
    have hkind : opened.textKind = .markup := by rw [hopen]; exact h.textKind
    have hskip : { opened with skipLineFeed := false } = opened := by rw [hopen, ← h.skipLineFeed]
    have hfeed : opened.feed (.endTag "template") = opened.closeTemplate := by
      simp only [feed, hskip]
      refine take_of_step_eq_done ?_
      rw [step_eq_stepMode (by rw [hcurrent, hvocabulary]), hopen]
      rfl
    rw [← hfeed]
    refine reads_token ?_ (by simp [closeTag]) (by simp) (by rw [hkind]; rfl)
    rw [hkind]
    exact Lexer.next_closeTag (by decide) (Or.inl rfl) _ _
  refine ⟨_, hstart.trans hend, ?_⟩
  rw [hclose, hfitting]
  exact ⟨hopened.extends_template, rfl, .refl _⟩

end Builder

end Html

end LiterateLinks
