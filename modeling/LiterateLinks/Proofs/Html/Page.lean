import Mathlib.Tactic.Common
import LiterateLinks.Proofs.Html.Tidy

/-!
# Reading a written page

A page has a head and a body, and comments, a doctype and space in between.  `Page.parse_serialize`
says that a tidy page is read back from what is written for it, up to what `Node.reread` takes out.

The nodes of a head are read by other rules than those of the body, but the argument is the same:
all that is needed of the rules is collected in `Builder.TakesOutside`.  The parts of the page are
then read one after the other, each from the state that the one before it leaves.
-/

namespace LiterateLinks

namespace Html

open Document (Surroundings writeNode writeNodes)
open Node (areTidy isTidy isTidyContent isTidyText reread rereadAll)

/-! ### Pages -/

/-- The elements that may stand in a head. -/
def inHeadElements : List String :=
  "noscript" :: Builder.headElements

/-- Whether a node may stand outside the body: space, a comment or an element with one of the
names. -/
def belongsOutside (allowed : List String) : Node → Bool
  | .text content => content.toList.all isBlank
  | .element tag _ _ => allowed.contains tag.name
  | _ => true

/-- The parts of a page.  Comments may stand between all of them. -/
structure Page where
  before : List String := []
  doctype : Option String := none
  beforeHtml : List String := []
  htmlAttributes : List Attribute := []
  beforeHead : List String := []
  headAttributes : List Attribute := []
  head : List Node
  afterHead : List Node := []
  bodyAttributes : List Attribute := []
  body : List Node
  afterBody : List String := []
  afterHtml : List String := []

namespace Page

/-- The tag of the outermost element. -/
def htmlTag (page : Page) : Tag :=
  { name := "html", attributes := page.htmlAttributes }

/-- The tag of the head. -/
def headTag (page : Page) : Tag :=
  { name := "head", attributes := page.headAttributes }

/-- The tag of the body. -/
def bodyTag (page : Page) : Tag :=
  { name := "body", attributes := page.bodyAttributes }

/-- The tree of the page. -/
def document (page : Page) : Document :=
  ⟨page.before.map .comment ++ page.doctype.toList.map .doctype ++ page.beforeHtml.map .comment ++
    [.element page.htmlTag none
      (page.beforeHead.map .comment ++ [.element page.headTag none page.head] ++ page.afterHead ++
        [.element page.bodyTag none page.body] ++ page.afterBody.map .comment)] ++
    page.afterHtml.map .comment⟩

/-- Whether the page is read where it was written. -/
def isTidy (page : Page) : Bool :=
  (page.before ++ page.beforeHtml ++ page.beforeHead ++ page.afterBody ++ page.afterHtml).all
      Lexer.isSteadyComment &&
    page.doctype.all Lexer.isSteadyDoctype &&
    [page.htmlTag, page.headTag, page.bodyTag].all Lexer.isSteadyTag &&
    (areTidy ["head", "html"] false page.head && page.head.all (belongsOutside inHeadElements)) &&
    (areTidy ["html"] false page.afterHead && page.afterHead.all (belongsOutside [])) &&
    areTidy ["body", "html"] false page.body

end Page

namespace Builder

open Lexer (closeTag isSteadyComment isSteadyTag openTag startTag writtenComment)

/-! ### Nodes outside the body -/

/-- The rules of a mode for nodes outside the body. -/
structure TakesOutside (names : List String) (m : Mode) (allowed : List String) : Prop where
  char : ∀ {b : Builder}, b.mode = m → ∀ c, isBlank c = true →
    b.stepMode (.char c) = .done (b.insertChar c)
  comment : ∀ {b : Builder}, b.mode = m → ∀ content,
    b.stepMode (.comment content) = .done (b.insertComment content)
  element : ∀ {b : Builder} {tag : Tag}, Stands b names → b.mode = m → tag.vocabulary = .html →
    tag.name ∈ allowed → Starts b tag (role tag.name)

/-- The rules of the head. -/
lemma takesOutside_inHead (name : String) (names : List String) :
    TakesOutside (name :: names) .inHead inHeadElements where
  char hmode c hc := by
    rw [stepMode, hmode]
    exact if_pos hc
  comment hmode content := by
    rw [stepMode, hmode]
    rfl
  element {b tag} h hmode htag hmem := by
    rcases List.mem_cons.1 hmem with hname | hmem
    · have hrole : role tag.name = .text (.raw "noscript") := by rw [hname]; decide
      have hstep : b.stepMode (.startTag (startTag tag)) =
          .done (b.insertTextElement (startTag tag) (.raw "noscript")) := by
        obtain ⟨tagName, attributes, vocabulary⟩ := tag
        obtain rfl : tagName = "noscript" := hname
        rw [stepMode, hmode]
        rfl
      rw [hrole]
      have hskip : Node.leavesOutLineFeed tag.name = false := by rw [hname]; decide
      exact ⟨_, hstep, hskip ▸ h.inText_insertTextElement htag (by rw [hname]; decide) _⟩
    · refine h.starts_of_mem_headElements (fun item b' hhead => ?_) htag hmem
      rw [stepMode, hmode]
      simp only [stepInHead, hhead]

/-- The rules between the head and the body. -/
lemma takesOutside_afterHead (names : List String) : TakesOutside names .afterHead [] where
  char hmode c hc := by
    rw [stepMode, hmode]
    exact if_pos hc
  comment hmode content := by
    rw [stepMode, hmode]
    rfl
  element _ _ _ hmem := by simp at hmem

/-- A node outside the body that is no text is read where it was written. -/
lemma TakesOutside.exists_reads_node {name : String} {names allowed : List String} {m : Mode}
    (htakes : TakesOutside (name :: names) m allowed) {n : Node} {b : Builder}
    (hallowed : ∀ tagName ∈ allowed, (role tagName).isContainer = false)
    (htidy : isTidy (name :: names) n = true) (hbelongs : belongsOutside allowed n = true)
    (htext : n.isText = false) (hmode : InMode b m) (h : Stands b (name :: names))
    {rest : List Char} (hmark : Lexer.skipMark rest = rest) :
    ∃ b', Reads b ((writeNode {} n).toList ++ rest) b' rest ∧ Grows b b' [reread n] := by
  cases n with
  | doctype _ => simp [isTidy] at htidy
  | text _ => simp [Node.isText] at htext
  | comment content =>
    rw [toList_writeNode_comment]
    exact ⟨_,
      h.reads_comment (by simpa [isTidy] using htidy) (htakes.comment hmode.mode content) rest,
      h.grows_insertComment content⟩
  | element tag contents children =>
    have hmem : tag.name ∈ allowed := by simpa [belongsOutside] using hbelongs
    simp only [isTidy, Bool.and_eq_true, Bool.or_eq_true, hallowed tag.name hmem,
      Bool.false_eq_true, false_and, or_false] at htidy
    obtain ⟨⟨hsteady, -⟩, hcontent⟩ := htidy
    exact h.exists_reads_content (hmode.fitting.trans hmode.mode.symm) hsteady hcontent
      (htakes.element h hmode.mode (Lexer.vocabulary_eq hsteady) hmem) hmark

/-- Nodes outside the body are read where they were written. -/
lemma TakesOutside.exists_reads_nodes {name : String} {names allowed : List String} {m : Mode}
    (htakes : TakesOutside (name :: names) m allowed)
    (hallowed : ∀ tagName ∈ allowed, (role tagName).isContainer = false) {rest : List Char}
    (hrest : StartsWithTag rest) :
    ∀ (ns : List Node) {b : Builder} {afterText : Bool},
      areTidy (name :: names) afterText ns = true →
      (∀ n ∈ ns, belongsOutside allowed n = true) → InMode b m → Stands b (name :: names) →
      (afterText = true ∨ b.arena.endsInText b.current = false) →
      ∃ b', Reads b ((writeNodes {} ns).toList ++ rest) b' rest ∧ Grows b b' (rereadAll ns)
  | [], b, _, _, _, _, _, _ => ⟨b, by simpa [writeNodes] using .refl b rest, .refl b⟩
  | n :: ns, b, afterText, htidy, hbelongs, hmode, h, hlast => by
    simp only [areTidy, Bool.and_eq_true, Bool.not_eq_true'] at htidy
    obtain ⟨⟨hafter, hn⟩, hns⟩ := htidy
    have hbelongs' := hbelongs n List.mem_cons_self
    have hmark := skipMark_writeNodes hns hrest
    obtain ⟨b₁, hreads, hgrows⟩ : ∃ b₁,
        Reads b ((writeNode {} n).toList ++ ((writeNodes {} ns).toList ++ rest)) b₁
          ((writeNodes {} ns).toList ++ rest) ∧ Grows b b₁ [reread n] := by
      cases htext : n.isText with
      | false => exact htakes.exists_reads_node hallowed hn hbelongs' htext hmode h hmark
      | true =>
        obtain ⟨content, rfl⟩ := Node.exists_eq_text htext
        have hends := hlast.resolve_left (by simpa [Node.isText] using hafter)
        have hblank : ∀ c ∈ content.toList, isBlank c = true := by
          simpa [belongsOutside] using hbelongs'
        have heach : InsertsEach b content.toList := h.insertsEach fun b' _ hmode' c hc =>
          ⟨_, htakes.char (hmode'.trans hmode.mode) c (hblank c hc)⟩
        obtain ⟨b₁, hreads, hgrows⟩ := exists_reads_textNode (h.withoutSkip.symm ▸ h)
          (by simpa [isTidy] using hn) (h.withoutSkip.symm ▸ heach) hends
          (startsWithTag_writeNodes hns hrest)
        rw [h.withoutSkip, h.skipLineFeed] at hgrows
        exact ⟨b₁, hreads, by simpa [reread] using hgrows⟩
    have hends : n.isText = true ∨ b₁.arena.endsInText b₁.current = false := by
      rw [hgrows.endsInText_eq h.current_lt_size, Node.isText_reread]
      cases n.isText <;> simp
    obtain ⟨b₂, hreads', hgrows'⟩ := htakes.exists_reads_nodes hallowed hrest ns hns
      (fun n' hn' => hbelongs n' (List.mem_cons_of_mem n hn')) (hmode.of_grows h hgrows)
      (h.of_grows hgrows) hends
    rw [writeNodes, String.toList_append, List.append_assoc]
    exact ⟨b₂, hreads.trans hreads', hgrows.trans hgrows' h.current_lt_size⟩

/-! ### Comments -/

/-- Comments are read one after the other and put below the same node. -/
lemma exists_reads_comments {names : List String} {target : Nat} (rest : List Char) :
    ∀ (contents : List String) {b : Builder}, Stands b names → target < b.arena.slots.size →
      (∀ arena, Stands { b with arena } names →
        ∀ content, { b with arena }.stepMode (.comment content) =
        .done ({ b with arena }.insertCommentAt (.last target) content)) →
      (∀ content ∈ contents, isSteadyComment content = true) →
      ∃ arena,
        Reads b ((writeNodes {} (contents.map .comment)).toList ++ rest) { b with arena } rest ∧
        b.arena.Extends arena target (contents.map .comment) ∧ Stands { b with arena } names
  | [], b, h, _, _, _ =>
    ⟨b.arena, by simpa [writeNodes] using .refl b rest, .refl _ _, h⟩
  | content :: contents, b, h, htarget, hstep, hsteady => by
    have hextends : b.arena.Extends (b.insertCommentAt (.last target) content).arena target
        [.comment content] :=
      Arena.extends_insert_add b.arena htarget fun _ _ _ hi hslot => ⟨hi, _, hslot⟩
    have hb : Stands (b.insertCommentAt (.last target) content) names :=
      h.congr rfl (fun _ hi => hextends.kind?_eq hi) fun _ _ hmem => hmem
    have hfirst := h.reads_comment (hsteady content (by simp)) (hstep b.arena h content)
      ((writeNodes {} (contents.map .comment)).toList ++ rest)
    obtain ⟨arena, hreads, hextends', hstands⟩ := exists_reads_comments rest contents hb
      (Nat.lt_of_lt_of_le htarget hextends.size_le) hstep
      fun content' hmem => hsteady content' (List.mem_cons_of_mem _ hmem)
    rw [List.map_cons, writeNodes, String.toList_append, toList_writeNode_comment,
      List.append_assoc]
    exact ⟨arena, hfirst.trans hreads, hextends.trans hextends' htarget, hstands⟩

/-! ### The start of a page -/

/-- The state before the outermost element. -/
def top (arena : Arena) (oldLayout : Bool) (m : Mode) : Builder :=
  { arena, oldLayout, mode := m }

/-- Nothing is open before the outermost element. -/
lemma stands_top (arena : Arena) (oldLayout : Bool) (m : Mode) :
    Stands (top arena oldLayout m) [] where
  tags := .nil
  nodup := .nil
  template := by simp
  formatting _ _ hmem := by simp [top] at hmem
  form := Or.inl rfl
  fostering := rfl
  skipLineFeed := rfl
  textKind := rfl

/-- Comments are read before the outermost element. -/
lemma exists_reads_comments_top (arena : Arena) (oldLayout : Bool) {m : Mode}
    (hm : m = .initial ∨ m = .beforeHtml) (harena : 0 < arena.slots.size) {contents : List String}
    (hsteady : ∀ content ∈ contents, isSteadyComment content = true) (rest : List Char) :
    ∃ arena', Reads (top arena oldLayout m) ((writeNodes {} (contents.map .comment)).toList ++ rest)
        (top arena' oldLayout m) rest ∧ arena.Extends arena' 0 (contents.map .comment) := by
  obtain ⟨arena', hreads, hextends, -⟩ := exists_reads_comments rest contents
    (stands_top arena oldLayout m) harena (fun _ _ content => by rcases hm with rfl | rfl <;> rfl)
      hsteady
  exact ⟨arena', hreads, hextends⟩

/-- A doctype is written like this. -/
lemma toList_writeNodes_doctype (name : String) :
    (writeNodes {} ((some name).toList.map .doctype)).toList = Lexer.writtenDoctype name := by
  simp [writeNodes, writeNode, Lexer.writtenDoctype]

/-- The doctype is read. -/
lemma exists_reads_doctype {arena : Arena} {oldLayout : Bool} (harena : 0 < arena.slots.size)
    {doctype : Option String} (hsteady : doctype.all Lexer.isSteadyDoctype = true)
    (rest : List Char) :
    ∃ arena' oldLayout' m, (m = .initial ∨ m = .beforeHtml) ∧
      Reads (top arena oldLayout .initial)
        ((writeNodes {} (doctype.toList.map .doctype)).toList ++ rest)
        (top arena' oldLayout' m) rest ∧
      arena.Extends arena' 0 (doctype.toList.map .doctype) := by
  cases doctype with
  | none =>
    exact ⟨arena, oldLayout, .initial, Or.inl rfl, by simpa [writeNodes] using .refl _ _, .refl _ _⟩
  | some name =>
    obtain ⟨d, rfl, hnext⟩ := Lexer.next_writtenDoctype (by simpa using hsteady)
      (top arena oldLayout .initial).isForeign rest
    have hreads :
        Reads (top arena oldLayout .initial) (Lexer.writtenDoctype (d.name.getD "") ++ rest)
        ((top arena oldLayout .initial).feed (.doctype d)) rest :=
      reads_token hnext (by simp [Lexer.writtenDoctype]) (by simp) rfl
    refine ⟨_, asksForOldLayout d, .beforeHtml, Or.inr rfl, ?_,
      Arena.extends_insert_add arena harena fun _ _ _ hi hslot => ⟨hi, _, hslot⟩⟩
    rw [toList_writeNodes_doctype]
    exact hreads

/-- The outermost element is opened. -/
lemma exists_reads_html {arena : Arena} {oldLayout : Bool} {m : Mode}
    (hm : m = .initial ∨ m = .beforeHtml) (harena : 0 < arena.slots.size) {tag : Tag}
    (hsteady : isSteadyTag tag = true) (hname : tag.name = "html") (rest : List Char) :
    ∃ b', Reads (top arena oldLayout m) (openTag tag ++ rest) b' rest ∧
      arena.Opened b'.arena 0 tag none b'.current ∧ Stands b' ["html"] ∧ b'.mode = .beforeHead ∧
      b'.stack = [b'.current] := by
  have htag := Lexer.vocabulary_eq hsteady
  have htemplate : Arena.isTemplate tag = false := by simp [Arena.isTemplate, hname]
  have hopened := Arena.opened_of_not_isTemplate arena harena htemplate
  -- without a doctype the page first asks for the layout of old pages
  obtain ⟨old, htake⟩ : ∃ old, (top arena oldLayout m).take (.startTag (startTag tag)) =
      (top arena old .beforeHtml).createRoot tag.attributes := by
    have hroot : ∀ old, (top arena old .beforeHtml).step (.startTag (startTag tag)) =
        .done ((top arena old .beforeHtml).createRoot tag.attributes) :=
      fun old => ((stands_top arena old .beforeHtml).step_eq _).trans (if_pos hname)
    rcases hm with rfl | rfl
    · exact ⟨true,
        take_of_step_eq_again ((stands_top arena oldLayout .initial).step_eq _) (hroot true)⟩
    · exact ⟨oldLayout, take_of_step_eq_done (hroot oldLayout)⟩
  have hroot : (top arena old .beforeHtml).createRoot tag.attributes =
      { top ((arena.addElement tag).1.insert (.last 0) (arena.addElement tag).2) old
          .beforeHead with
        stack := [(arena.addElement tag).2] } := by
    obtain ⟨tagName, attributes, vocabulary⟩ := tag
    obtain rfl : vocabulary = .html := htag
    obtain rfl : tagName = "html" := hname
    rfl
  have hreads : Reads (top arena oldLayout m) (openTag tag ++ rest)
      ((top arena oldLayout m).feed (.startTag (startTag tag))) rest :=
    reads_token (Lexer.next_openTag hsteady _ _) (by simp [openTag]) (by simp) rfl
  rw [(stands_top arena oldLayout m).feed_eq.1, htake, hroot] at hreads
  refine ⟨_, hreads, hopened, ?_, rfl, rfl⟩
  exact hname ▸ (stands_top arena old .beforeHead).push hopened htag (by rw [hname]; decide) rfl
    (fun _ _ hmem => by simp [top] at hmem) (Or.inl rfl) rfl rfl rfl

/-! ### The head and the body -/

/-- The mode and the head may change while the same elements are open. -/
lemma Stands.withMode {b : Builder} {names : List String} (h : Stands b names) (m : Mode)
    (head : Option Nat) : Stands { b with mode := m, head } names :=
  ⟨h.tags, h.nodup, h.template, h.formatting, h.form, h.fostering, h.skipLineFeed, h.textKind⟩

/-- The innermost element asks for its mode. -/
lemma Stands.fittingMode_eq {b : Builder} {name : String} {names : List String}
    (h : Stands b (name :: names)) {m : Mode}
    (hm : ∀ attributes, b.modeFor { name, attributes } b.stack.tail = some m) :
    b.fittingMode b.stack = m := by
  obtain ⟨outer, attributes, hstack, htag⟩ := h.exists_stack_eq
  have hcurrent : b.tag b.current = { name, attributes } := by rw [Builder.tag, htag]; rfl
  have hfor := hm attributes
  rw [hstack, List.tail_cons] at hfor
  rw [hstack, fittingMode, hcurrent, hfor]

/-- A comment before the head. -/
lemma stepMode_comment_beforeHead {b : Builder} (hmode : b.mode = .beforeHead) (content : String) :
    b.stepMode (.comment content) = .done (b.insertComment content) := by
  rw [stepMode, hmode]
  rfl

/-- The head is read. -/
lemma exists_reads_head {b : Builder} (h : Stands b ["html"]) (hmode : b.mode = .beforeHead)
    {tag : Tag} (hsteady : isSteadyTag tag = true) (hname : tag.name = "head") {ns : List Node}
    (htidy : areTidy ["head", "html"] false ns = true)
    (hbelongs : ∀ n ∈ ns, belongsOutside inHeadElements n = true) (rest : List Char) :
    ∃ b',
      Reads b (openTag tag ++ ((writeNodes {} ns).toList ++ (closeTag tag.name ++ rest))) b' rest ∧
      b.arena.Extends b'.arena b.current [.element tag none (rereadAll ns)] ∧ Stands b' ["html"] ∧
      InMode b' .afterHead ∧ b'.stack = b.stack := by
  have htag := Lexer.vocabulary_eq hsteady
  have htemplate : Arena.isTemplate tag = false := by simp [Arena.isTemplate, hname]
  obtain ⟨arena, i, hopen, hopened⟩ := h.exists_insertOpen_eq htemplate
  have hstep : b.stepMode (.startTag (startTag tag)) =
      .done { b with arena, stack := i :: b.stack, head := some i, mode := .inHead } := by
    have hhead : b.stepMode (.startTag (startTag tag)) = .done (b.openHead (startTag tag)) := by
      rw [stepMode, hmode]
      exact (if_neg (by rw [show (startTag tag).name = tag.name from rfl, hname]; decide)).trans
        (if_pos hname)
    rw [hhead, openHead, insertHtml, htmlTag_startTag htag, hopen]
    rfl
  let opened : Builder := { b with arena, stack := i :: b.stack, head := some i, mode := .inHead }
  have hstart : Reads b (openTag tag ++ ((writeNodes {} ns).toList ++ (closeTag tag.name ++ rest)))
      opened _ := h.reads_startTag hsteady hstep _
  have hstands : Stands opened ["head", "html"] :=
    hname ▸ h.push hopened htag (by rw [hname]; decide) rfl (fun _ _ hmem => Or.inl hmem)
      (Or.inl rfl)
      h.fostering h.skipLineFeed h.textKind
  have hin : InMode opened .inHead := by
    refine ⟨rfl, hstands.fittingMode_eq fun attributes => ?_⟩
    obtain ⟨outer, -, hstack, -⟩ := h.exists_stack_eq
    have htail : opened.stack.tail = b.current :: outer := hstack
    rw [htail]
    rfl
  have hlast : opened.arena.endsInText opened.current = false := hopened.endsInText_eq
  obtain ⟨inner, hreads, hgrows⟩ := (takesOutside_inHead "head" ["html"]).exists_reads_nodes
    (by decide) (startsWithTag_closeTag (Lexer.isTagName_name hsteady) rest)
      ns htidy hbelongs hin hstands
    (Or.inr hlast)
  have hinner := hstands.of_grows hgrows
  let closed : Builder := { inner.pop with mode := .afterHead }
  have hend : inner.stepMode (.endTag tag.name) = .done closed := by
    rw [stepMode, (hin.of_grows hstands hgrows).mode, hname]
    rfl
  have hframe : closed.frame = { b with mode := .afterHead, head := some i }.frame :=
    (congrArg (fun f : Builder => { f with stack := f.stack.tail, mode := .afterHead })
      hgrows.frame :)
  have hclosed : Stands closed ["html"] :=
    (h.withMode .afterHead (some i)).congr hframe
      (fun _ hj => (hgrows.arena.kind?_eq (hopened.lt_size hj)).trans (hopened.kind?_eq hj))
      fun _ _ hmem => hgrows.formatting.subset hmem
  have hclose := hinner.reads_endTag (Lexer.isTagName_name hsteady) hend rest
  refine ⟨closed, hstart.trans (hreads.trans hclose),
    hopened.extends_element hgrows.arena h.current_lt_size, hclosed, ⟨rfl, ?_⟩,
    (congrArg Builder.stack hframe :)⟩
  refine hclosed.fittingMode_eq fun attributes => ?_
  have hhead : closed.head = some i := (congrArg Builder.head hframe :)
  rw [modeFor, hhead]
  rfl

/-- The start tag of the body opens it. -/
lemma stepMode_startTag_body {b : Builder} (hmode : b.mode = .afterHead) {tag : StartTag}
    (hname : tag.name = "body") : b.stepMode (.startTag tag) =
      .done { b.insertHtml tag with framesetOk := false, mode := .inBody } := by
  obtain ⟨tagName, attributes, selfClosing⟩ := tag
  obtain rfl : tagName = "body" := hname
  rw [stepMode, hmode]
  rfl

/-- The end tag of the body is remembered, but the body stays open. -/
lemma Stands.stepMode_endTag_body {b : Builder} {names : List String}
    (h : Stands b ("body" :: names)) (hmode : b.mode = .inBody) :
    b.stepMode (.endTag "body") = .done { b with mode := .afterBody } := by
  have hbody : b.stepMode (.endTag "body") = .done
      (if b.nameInScope defaultScope "body" then { b with mode := .afterBody } else b) := by
    rw [stepMode, hmode]
    rfl
  rw [hbody, h.nameInScope_self, if_pos rfl]

/-- The body is read, and stays open. -/
lemma exists_reads_body {b : Builder} (h : Stands b ["html"]) (hmode : b.mode = .afterHead)
    (hstack : b.stack = [b.current]) {tag : Tag} (hsteady : isSteadyTag tag = true)
    (hname : tag.name = "body") {ns : List Node} (htidy : areTidy ["body", "html"] false ns = true)
    (rest : List Char) :
    ∃ b',
      Reads b (openTag tag ++ ((writeNodes {} ns).toList ++ (closeTag tag.name ++ rest))) b' rest ∧
      b.arena.Extends b'.arena b.current [.element tag none (rereadAll ns)] ∧
      Stands b' ["body", "html"] ∧ b'.mode = .afterBody ∧ b'.stack.getLast? = some b.current := by
  have htag := Lexer.vocabulary_eq hsteady
  have htemplate : Arena.isTemplate tag = false := by simp [Arena.isTemplate, hname]
  obtain ⟨arena, i, hopen, hopened⟩ := h.exists_insertOpen_eq htemplate
  have hstep := stepMode_startTag_body hmode (show (startTag tag).name = "body" from hname)
  rw [insertHtml, htmlTag_startTag htag, hopen] at hstep
  have hstart :=
    h.reads_startTag hsteady hstep ((writeNodes {} ns).toList ++ (closeTag tag.name ++ rest))
  have hstands : Stands
      { b with arena, stack := i :: b.stack, framesetOk := false, mode := .inBody }
        ["body", "html"] :=
    hname ▸ h.push hopened htag (by rw [hname]; decide) rfl (fun _ _ hmem => Or.inl hmem)
      (Or.inl rfl)
      h.fostering h.skipLineFeed h.textKind
  generalize hb :
    ({ b with arena, stack := i :: b.stack, framesetOk := false, mode := .inBody } : Builder) =
    opened at hstart hstands
  have harena : b.arena.Opened opened.arena b.current tag none opened.current := by
    rw [← hb]
    exact hopened
  have hin : InBody opened := ⟨by rw [← hb], hstands.fittingMode_eq fun _ => by simp [modeFor]⟩
  obtain ⟨inner, hreads, hgrows⟩ := exists_reads_nodes ns htidy (hstands.withoutSkip.symm ▸ hin)
    (hstands.withoutSkip.symm ▸ hstands) (Or.inr harena.endsInText_eq)
    (startsWithTag_closeTag (Lexer.isTagName_name hsteady) rest)
  rw [hstands.withoutSkip, hstands.skipLineFeed] at hgrows
  have hinner := hstands.of_grows hgrows
  have hend := hinner.stepMode_endTag_body (hin.of_grows hstands hgrows).mode
  have hstop := hinner.reads_endTag (by decide) hend rest
  rw [← hname] at hstop
  refine ⟨_, hstart.trans (hreads.trans hstop),
    harena.extends_element hgrows.arena h.current_lt_size,
    hinner.withMode .afterBody inner.head, rfl, ?_⟩
  have hstack' : inner.stack = i :: b.stack := by rw [hgrows.stack_eq, ← hb]
  show inner.stack.getLast? = some b.current
  rw [hstack', hstack]
  rfl

/-- What follows the body is read. -/
lemma exists_reads_end {b : Builder} (h : Stands b ["body", "html"]) (hmode : b.mode = .afterBody)
    {html : Nat} (hhtml : b.stack.getLast? = some html) {afterBody afterHtml : List String}
    (hafterBody : ∀ content ∈ afterBody, isSteadyComment content = true)
    (hafterHtml : ∀ content ∈ afterHtml, isSteadyComment content = true) :
    ∃ arena b', Reads b ((writeNodes {} (afterBody.map .comment)).toList ++
        (closeTag "html" ++ (writeNodes {} (afterHtml.map .comment)).toList)) b' [] ∧
      b.arena.Extends arena html (afterBody.map .comment) ∧
      arena.Extends b'.arena 0 (afterHtml.map .comment) ∧ b'.feed .eof = b' := by
  have hlt : html < b.arena.slots.size := h.lt_size (List.mem_of_getLast? hhtml)
  obtain ⟨arena, hreads, hextends, hstands⟩ := exists_reads_comments
    (closeTag "html" ++ (writeNodes {} (afterHtml.map .comment)).toList) afterBody h hlt
    (fun _ _ content => by
      rw [stepMode, hmode]
      exact congrArg (fun target => Step.done (insertCommentAt _ (.last target) content))
        (by rw [hhtml]; rfl)) hafterBody
  have hend : { b with arena }.stepMode (.endTag "html") =
      .done { b with arena, mode := .afterAfterBody } := by
    rw [stepMode, hmode]
    rfl
  have hclose :=
    hstands.reads_endTag (by decide) hend (writeNodes {} (afterHtml.map .comment)).toList
  have hclosed : Stands { b with arena, mode := .afterAfterBody } ["body", "html"] :=
    hstands.withMode .afterAfterBody b.head
  have hpos : 0 < arena.slots.size := Nat.lt_of_lt_of_le (Nat.zero_lt_of_lt hlt) hextends.size_le
  obtain ⟨arena', hreads', hextends', hstands'⟩ := exists_reads_comments [] afterHtml hclosed
    hpos (fun _ _ _ => rfl) hafterHtml
  rw [List.append_nil] at hreads'
  refine ⟨arena, _, hreads.trans (hclose.trans hreads'), hextends, hextends', ?_⟩
  have hskip := hstands'.withoutSkip
  have htake : { b with arena := arena', mode := .afterAfterBody }.take .eof =
      { b with arena := arena', mode := .afterAfterBody } :=
    take_of_step_eq_done (hstands'.step_eq _)
  exact (congrArg (take · .eof) hskip).trans htake

end Builder

/-! ### Whole pages -/

namespace Page

open Lexer (closeTag isSteadyComment isSteadyTag openTag)

variable {page : Page}

/-- The page as it is written. -/
lemma toList_serialize (page : Page) :
    page.document.serialize.toList =
      (writeNodes {} (page.before.map .comment)).toList ++
      ((writeNodes {} (page.doctype.toList.map .doctype)).toList ++
      ((writeNodes {} (page.beforeHtml.map .comment)).toList ++
      (openTag page.htmlTag ++
      ((writeNodes {} (page.beforeHead.map .comment)).toList ++
      (openTag page.headTag ++ ((writeNodes {} page.head).toList ++ (closeTag "head" ++
      ((writeNodes {} page.afterHead).toList ++
      (openTag page.bodyTag ++ ((writeNodes {} page.body).toList ++ (closeTag "body" ++
      ((writeNodes {} (page.afterBody.map .comment)).toList ++
      (closeTag "html" ++ (writeNodes {} (page.afterHtml.map .comment)).toList))))))))))))) := by
  have hpart : ∀ name ∈ ["html", "head", "body"], ∀ attributes children,
      (writeNode {} (.element { name, attributes } none children)).toList =
        openTag { name, attributes } ++ ((writeNodes {} children).toList ++ closeTag name) := by
    intro name hname attributes children
    have hall : ∀ n ∈ ["html", "head", "body"], n ∉ Document.rawTextElements ∧
        n ∉ Document.voidElements := by decide
    obtain ⟨hraw, hvoid⟩ := hall name hname
    let tag : Tag := { name, attributes }
    rw [Builder.toList_writeNode_element (show tag.name ∉ _ from hvoid),
      Builder.enter_eq (show tag.name ∉ _ from hraw) hvoid]
  rw [Document.serialize, document]
  simp only [Document.writeNodes_append, Document.writeNodes_singleton, String.toList_append,
    htmlTag, headTag, bodyTag, hpart "html" (by decide), hpart "head" (by decide),
    hpart "body" (by decide), List.append_assoc]

/-- The tree that is read. -/
lemma document_reread (page : Page) : page.document.reread =
    ⟨page.before.map .comment ++
      (page.doctype.toList.map .doctype ++ (page.beforeHtml.map .comment ++
      ([.element page.htmlTag none
        (page.beforeHead.map .comment ++ ([.element page.headTag none (rereadAll page.head)] ++
          (rereadAll page.afterHead ++ ([.element page.bodyTag none (rereadAll page.body)] ++
            page.afterBody.map .comment))))] ++ page.afterHtml.map .comment)))⟩ := by
  have hcomments : ∀ contents : List String, (contents.map Node.comment).map Node.reread =
      contents.map .comment := fun contents => by simp [Node.reread]
  have hdoctype : (page.doctype.toList.map Node.doctype).map Node.reread =
      page.doctype.toList.map .doctype := by simp [Node.reread]
  have hpart : ∀ name ∈ ["html", "head", "body"], ∀ attributes children,
      Node.reread (.element { name, attributes } none children) =
        .element { name, attributes } none (children.map Node.reread) := by
    intro name hname attributes children
    have hall : ∀ n ∈ ["html", "head", "body"], Node.leavesOutLineFeed n = false := by decide
    simp [Node.reread, hall name hname, Node.rereadAll_eq_map]
  simp only [Document.reread, document, htmlTag, headTag, bodyTag, Node.rereadAll_eq_map,
    List.map_append, List.map_cons, List.map_nil, hcomments, hdoctype, hpart "html" (by decide),
    hpart "head" (by decide), hpart "body" (by decide), List.append_assoc]

/-- The conditions on a page. -/
structure Tidy (page : Page) : Prop where
  comments : ∀ content ∈ page.before ++ page.beforeHtml ++ page.beforeHead ++ page.afterBody ++
    page.afterHtml, isSteadyComment content = true
  doctype : page.doctype.all Lexer.isSteadyDoctype = true
  htmlTag : isSteadyTag page.htmlTag = true
  headTag : isSteadyTag page.headTag = true
  bodyTag : isSteadyTag page.bodyTag = true
  head : areTidy ["head", "html"] false page.head = true
  inHead : ∀ n ∈ page.head, belongsOutside inHeadElements n = true
  afterHead : areTidy ["html"] false page.afterHead = true
  outside : ∀ n ∈ page.afterHead, belongsOutside [] n = true
  body : areTidy ["body", "html"] false page.body = true

/-- The conditions can be checked. -/
lemma isTidy_iff : page.isTidy = true ↔ page.Tidy := by
  simp only [isTidy, Bool.and_eq_true, List.all_eq_true, List.mem_cons, List.not_mem_nil, or_false,
    forall_eq_or_imp, forall_eq]
  constructor
  · rintro ⟨⟨⟨⟨⟨hcomments, hdoctype⟩, hhtml, hhead, hbody⟩, hinHead⟩, houtside⟩, hinBody⟩
    exact ⟨hcomments, hdoctype, hhtml, hhead, hbody, hinHead.1, hinHead.2, houtside.1, houtside.2,
      hinBody⟩
  · rintro ⟨hcomments, hdoctype, hhtml, hhead, hbody, hinHead, hbelongs, hafter, houtside, hinBody⟩
    exact ⟨⟨⟨⟨⟨hcomments, hdoctype⟩, hhtml, hhead, hbody⟩, hinHead, hbelongs⟩, hafter, houtside⟩,
      hinBody⟩

/-- The content of the outermost element is read, and the comments after it. -/
lemma exists_reads_inHtml (h : page.Tidy) {b : Builder} (hb : b.Stands ["html"])
    (hmode : b.mode = .beforeHead) (hstack : b.stack = [b.current]) :
    ∃ arena b', b.Reads
        ((writeNodes {} (page.beforeHead.map .comment)).toList ++
        (openTag page.headTag ++ ((writeNodes {} page.head).toList ++ (closeTag "head" ++
        ((writeNodes {} page.afterHead).toList ++
        (openTag page.bodyTag ++ ((writeNodes {} page.body).toList ++ (closeTag "body" ++
        ((writeNodes {} (page.afterBody.map .comment)).toList ++
        (closeTag "html" ++ (writeNodes {} (page.afterHtml.map .comment)).toList)))))))))) b' [] ∧
      b.arena.Extends arena b.current
        (page.beforeHead.map .comment ++ ([.element page.headTag none (rereadAll page.head)] ++
          (rereadAll page.afterHead ++ ([.element page.bodyTag none (rereadAll page.body)] ++
            page.afterBody.map .comment)))) ∧
      arena.Extends b'.arena 0 (page.afterHtml.map .comment) ∧ b'.feed .eof = b' := by
  have hcomments := h.comments
  simp only [List.mem_append, or_imp, forall_and] at hcomments
  obtain ⟨⟨⟨-, hbeforeHead⟩, hafterBody⟩, hafterHtml⟩ := hcomments
  -- the comments before the head
  obtain ⟨a₁, hreads₁, hext₁, hb₁⟩ := Builder.exists_reads_comments _ page.beforeHead hb
    hb.current_lt_size (fun arena hstands content => by
      have hstep := Builder.stepMode_comment_beforeHead (b := { b with arena }) hmode content
      rw [hstep, Builder.insertComment, hstands.placeIn_eq]
      rfl) hbeforeHead
  -- the head, and what stands between it and the body
  obtain ⟨b₂, hreads₂, hext₂, hb₂, hin₂, hstack₂⟩ :=
    Builder.exists_reads_head hb₁ hmode h.headTag rfl
    h.head h.inHead _
  have hcurrent₂ : b₂.current = b.current := by rw [Builder.current, hstack₂]; rfl
  have hends₂ : b₂.arena.endsInText b₂.current = false := by
    rw [hcurrent₂]
    exact Arena.Extends.endsInText_eq (List.nil_append [_] ▸ hext₂) hb₁.current_lt_size
  obtain ⟨b₃, hreads₃, hgrows₃⟩ :=
    (Builder.takesOutside_afterHead ["html"]).exists_reads_nodes (by simp)
    (Builder.startsWithTag_openTag h.bodyTag _) page.afterHead h.afterHead h.outside hin₂ hb₂
    (Or.inr hends₂)
  have hcurrent₃ : b₃.current = b.current := hgrows₃.current_eq.trans hcurrent₂
  have hstack₃ : b₃.stack = [b₃.current] := by
    rw [hgrows₃.stack_eq, hstack₂, hcurrent₃]
    exact hstack
  -- the body, and the comments after it
  obtain ⟨b₄, hreads₄, hext₄, hb₄, hmode₄, hlast₄⟩ :=
    Builder.exists_reads_body (hb₂.of_grows hgrows₃)
    (hin₂.of_grows hb₂ hgrows₃).mode hstack₃ h.bodyTag rfl h.body _
  obtain ⟨a₅, b₅, hreads₅, hext₅, hext₆, heof⟩ :=
    Builder.exists_reads_end hb₄ hmode₄ hlast₄ hafterBody
    hafterHtml
  refine ⟨a₅, b₅, hreads₁.trans (hreads₂.trans (hreads₃.trans (hreads₄.trans hreads₅))), ?_, hext₆,
    heof⟩
  have hlt₂ := hb₂.current_lt_size
  have hlt₃ := (hb₂.of_grows hgrows₃).current_lt_size
  have hext₃ := hgrows₃.arena
  rw [hcurrent₂] at hlt₂ hext₃
  rw [hcurrent₃] at hlt₃ hext₄ hext₅
  exact hext₁.trans (hext₂.trans (hext₃.trans (hext₄.trans hext₅ hlt₃) hlt₂) hb₁.current_lt_size)
    hb.current_lt_size

/-- The written page is read into the tree that is to be read. -/
lemma exists_reads (h : page.Tidy) :
    ∃ b, Builder.Reads {} page.document.serialize.toList b [] ∧ b.feed .eof = b ∧
      Arena.Extends {} b.arena 0 page.document.reread.children := by
  have hcomments := h.comments
  simp only [List.mem_append, or_imp, forall_and] at hcomments
  obtain ⟨⟨⟨⟨hbefore, hbeforeHtml⟩, -⟩, -⟩, -⟩ := hcomments
  rw [toList_serialize, document_reread]
  obtain ⟨a₁, hreads₁, hext₁⟩ := Builder.exists_reads_comments_top {} false (Or.inl rfl) (by decide)
    hbefore _
  have hlt₁ : 0 < a₁.slots.size := Nat.lt_of_lt_of_le (by decide) hext₁.size_le
  obtain ⟨a₂, oldLayout, m, hm, hreads₂, hext₂⟩ := Builder.exists_reads_doctype hlt₁ h.doctype _
  have hlt₂ : 0 < a₂.slots.size := Nat.lt_of_lt_of_le hlt₁ hext₂.size_le
  obtain ⟨a₃, hreads₃, hext₃⟩ :=
    Builder.exists_reads_comments_top a₂ oldLayout hm hlt₂ hbeforeHtml _
  have hlt₃ : 0 < a₃.slots.size := Nat.lt_of_lt_of_le hlt₂ hext₃.size_le
  obtain ⟨b₄, hreads₄, hopened, hb₄, hmode, hstack⟩ :=
    Builder.exists_reads_html hm hlt₃ h.htmlTag rfl _
  obtain ⟨a₅, b₆, hreads₅, hext₅, hext₆, heof⟩ := exists_reads_inHtml h hb₄ hmode hstack
  have hhtml := hopened.extends_element hext₅ hlt₃
  refine ⟨b₆, hreads₁.trans (hreads₂.trans (hreads₃.trans (hreads₄.trans hreads₅))), heof, ?_⟩
  exact hext₁.trans (hext₂.trans (hext₃.trans (hhtml.trans hext₆ hlt₃) hlt₂) hlt₁) (by decide)

/-- Comments are tidy. -/
lemma areTidy_comments {contents : List String}
    (h : ∀ content ∈ contents, isSteadyComment content = true) :
    areTidy [] false (contents.map .comment) = true := by
  induction contents with
  | nil => rfl
  | cons content contents ih =>
    have hrest := ih fun content' hmem => h content' (List.mem_cons_of_mem _ hmem)
    simpa [areTidy, Node.isTidy, Node.isText, h content] using hrest

/-- The written page is steady. -/
lemma all_isSteady_serialize (h : page.Tidy) :
    page.document.serialize.toList.all isSteady = true := by
  have hcomments : ∀ contents : List String,
      (∀ content ∈ contents, isSteadyComment content = true) →
      (writeNodes {} (contents.map .comment)).toList.all isSteady = true :=
    fun contents hsteady => Builder.all_isSteady_writeNodes _ {} (areTidy_comments hsteady)
  have hdoctype :
      (writeNodes {} (page.doctype.toList.map .doctype)).toList.all isSteady = true := by
    cases hname : page.doctype with
    | none => rfl
    | some name =>
      have hsteady : Lexer.isSteadyDoctype name = true := by simpa [hname] using h.doctype
      have hwritten := Lexer.all_isSteady_of_all_isNameChar hsteady
      rw [Builder.toList_writeNodes_doctype]
      simp [Lexer.writtenDoctype, hwritten, isSteady]
  have hsteady := h.comments
  simp only [List.mem_append, or_imp, forall_and] at hsteady
  obtain ⟨⟨⟨⟨hbefore, hbeforeHtml⟩, hbeforeHead⟩, hafterBody⟩, hafterHtml⟩ := hsteady
  simp only [toList_serialize, List.all_append, hcomments _ hbefore, hcomments _ hbeforeHtml,
    hcomments _ hbeforeHead, hcomments _ hafterBody, hcomments _ hafterHtml, hdoctype,
    Lexer.all_isSteady_openTag h.htmlTag, Lexer.all_isSteady_openTag h.headTag,
    Lexer.all_isSteady_openTag h.bodyTag, Builder.all_isSteady_writeNodes _ {} h.head,
    Builder.all_isSteady_writeNodes _ {} h.afterHead, Builder.all_isSteady_writeNodes _ {} h.body,
    Lexer.all_isSteady_closeTag (show Lexer.isTagName "html" = true by decide),
    Lexer.all_isSteady_closeTag (show Lexer.isTagName "head" = true by decide),
    Lexer.all_isSteady_closeTag (show Lexer.isTagName "body" = true by decide), Bool.and_self]

/-- A source does not start with a byte order mark if it starts with a tag, maybe after nothing. -/
lemma skipMark_append {source rest : List Char} (h : source = [] ∨ ∃ more, source = '<' :: more)
    (hrest : Lexer.skipMark rest = rest) : Lexer.skipMark (source ++ rest) = source ++ rest := by
  rcases h with rfl | ⟨more, rfl⟩
  · exact hrest
  · rfl

/-- The written page does not start with a byte order mark. -/
lemma skipMark_serialize (page : Page) :
    Lexer.skipMark page.document.serialize.toList = page.document.serialize.toList := by
  have hcomments : ∀ contents : List String, (writeNodes {} (contents.map .comment)).toList = [] ∨
      ∃ more, (writeNodes {} (contents.map .comment)).toList = '<' :: more := by
    intro contents
    cases contents with
    | nil => exact Or.inl rfl
    | cons content contents =>
      rw [List.map_cons, writeNodes, String.toList_append, Builder.toList_writeNode_comment]
      exact Or.inr ⟨_, rfl⟩
  have hdoctype : (writeNodes {} (page.doctype.toList.map .doctype)).toList = [] ∨
      ∃ more, (writeNodes {} (page.doctype.toList.map .doctype)).toList = '<' :: more := by
    cases page.doctype with
    | none => exact Or.inl rfl
    | some name => exact Or.inr ⟨_, Builder.toList_writeNodes_doctype name⟩
  rw [toList_serialize]
  exact skipMark_append (hcomments _) (skipMark_append hdoctype (skipMark_append (hcomments _) rfl))

/-- A tidy page is read where it was written, but for what is lost. -/
theorem parse_serialize (h : page.isTidy = true) :
    Document.parse page.document.serialize = page.document.reread := by
  have htidy := isTidy_iff.1 h
  obtain ⟨b, hreads, heof, hextends⟩ := exists_reads htidy
  rw [Document.parse,
    Lexer.normalize_eq_self (skipMark_serialize page) (all_isSteady_serialize htidy)]
  rw [hreads.consume_eq (Nat.lt_succ_self _), heof, hextends.toDocument_eq]

end Page

end Html

namespace Document

variable {document : Document}

/-- The document is that of a tidy page. -/
def Tidy (document : Document) : Prop :=
  ∃ page : Html.Page, page.isTidy = true ∧ page.document = document

/-- The document of a tidy page is read where it was written, but for what is lost. -/
lemma Tidy.parse_serialize (h : document.Tidy) : .parse document.serialize = document.reread := by
  obtain ⟨page, hpage, rfl⟩ := h
  exact Html.Page.parse_serialize hpage

end Document

end LiterateLinks
