import Mathlib.Tactic.Common
import LiterateLinks.Proofs.Document.Serialize
import LiterateLinks.Proofs.Html.Nesting

/-!
# Reading the nodes of a body

Not every tree is read back from what is written for it: a paragraph in a paragraph comes out as two
paragraphs, and two texts side by side as one.  `Node.isTidy` is the check that rules this out:

* every element fits into those around it, and tables, selections and elements of other vocabularies
  are left out;
* tags, comments and texts hold no character that ends them or is read as another one;
* texts are not empty, and no two of them are next to each other;
* an element that holds text only has one text at most, without its end tag in it.

Two things are lost even for tidy nodes: the contents of templates, which are not written, and a
line feed at the start of some elements.  `Node.reread` is the node without them, and
`Builder.exists_reads_node` says that it is what is read.  The proof goes along the tree, with
`Builder.Stands` and `Builder.InBody` as what holds between any two nodes.
-/

namespace LiterateLinks

namespace Node

open Html (isSteady)
open Html.Builder (Role dropLineFeed fits role textNodes)
open Html.Lexer (holdsText isSteadyComment isSteadyTag)

/-! ### Nodes that are read as they are written -/

/-- Whether the text is read as one text, wherever it stands. -/
def isTidyText (content : String) : Bool :=
  !content.toList.isEmpty && content.toList.all isSteady && content.toList.head? != some '\ufeff'

/-- The text that the children of an element consist of, if they are one text at most. -/
def heldText? : List Node → Option (List Char)
  | [] => some []
  | [.text content] => if content.toList.isEmpty then none else some content.toList
  | _ => none

/-- Whether an element that holds no other elements is read with its content.  The contents of a
template are not written, so there is no condition on them. -/
def isTidyContent (contents : Option (List Node)) (children : List Node) : Role → Bool
  | .void => contents.isNone && children.isEmpty
  | .text kind => contents.isNone &&
    (heldText? children).any fun text => text.all isSteady && holdsText kind text
  | .template => contents.isSome && children.isEmpty
  | _ => false

mutual

/-- Whether a node of a body is read where it was written, inside elements with the given names. -/
def isTidy (names : List String) : Node → Bool
  | .doctype _ => false
  | .comment content => isSteadyComment content
  | .text content => isTidyText content
  | .element tag contents children =>
    isSteadyTag tag && fits names tag.name (role tag.name) &&
      (isTidyContent contents children (role tag.name) ||
        ((role tag.name).isContainer && contents.isNone &&
          areTidy (tag.name :: names) false children))

/-- Whether siblings are read where they were written; no text may follow another one. -/
def areTidy (names : List String) (afterText : Bool) : List Node → Bool
  | [] => true
  | n :: ns => !(afterText && n.isText) && isTidy names n && areTidy names n.isText ns

end

/-! ### What is read -/

/-- Whether a line feed right after the start tag is left out. -/
def leavesOutLineFeed (name : String) : Bool :=
  ["pre", "listing", "textarea"].contains name

/-- Children without a line feed at the start of their first text. -/
def leaveOutLineFeed : List Node → List Node
  | .text content :: ns => textNodes (dropLineFeed content.toList) ++ ns
  | ns => ns

mutual

/-- The node that is read where the node was written: templates have lost their contents, and some
elements a line feed. -/
def reread : Node → Node
  | .element tag contents children =>
    .element tag (contents.map fun _ => [])
      (if leavesOutLineFeed tag.name then leaveOutLineFeed (rereadAll children)
        else rereadAll children)
  | n => n

/-- The nodes that are read where siblings were written. -/
def rereadAll : List Node → List Node
  | [] => []
  | n :: ns => reread n :: rereadAll ns

end

/-- Siblings are read one by one. -/
lemma rereadAll_eq_map (ns : List Node) : rereadAll ns = ns.map reread := by
  induction ns with
  | nil => rfl
  | cons n ns ih => rw [rereadAll, ih, List.map_cons]

/-- A text is a text node. -/
lemma exists_eq_text {n : Node} (h : n.isText = true) : ∃ content, n = .text content := by
  cases n with
  | text content => exact ⟨content, rfl⟩
  | doctype _ | comment _ | element _ _ _ => simp [isText] at h

/-- The characters of a tidy text are steady. -/
lemma isSteady_of_isTidyText {content : String} (h : isTidyText content = true) :
    ∀ c ∈ content.toList, isSteady c = true := by
  simp only [isTidyText, Bool.and_eq_true, List.all_eq_true] at h
  exact h.1.2

/-- Text is read where text was written. -/
lemma isText_reread (n : Node) : n.reread.isText = n.isText := by
  cases n <;> simp [reread, isText]

/-- The children of an element that holds text only. -/
lemma eq_textNodes_of_heldText? {children : List Node} {text : List Char}
    (h : heldText? children = some text) : children = textNodes text := by
  unfold heldText? at h
  split at h
  · obtain rfl := Option.some.inj h
    rfl
  · split at h
    · cases h
    · next hne =>
      obtain rfl := Option.some.inj h
      simp only [textNodes, hne, String.ofList_toList, if_false, Bool.false_eq_true]
  · cases h

/-- Content without elements is one steady text at most. -/
lemma exists_eq_textNodes_of_isTidyContent {contents : Option (List Node)} {children : List Node}
    {r : Role} (h : isTidyContent contents children r = true) :
    ∃ text, children = textNodes text ∧ ∀ c ∈ text, isSteady c = true := by
  cases r with
  | ordinary | paragraph | block | heading | preformatted | item _ | button | option | ruby |
    formatting | enclosing | form | other => simp [isTidyContent] at h
  | void | template =>
    simp only [isTidyContent, Bool.and_eq_true, List.isEmpty_iff] at h
    exact ⟨[], h.2, by simp⟩
  | text kind =>
    simp only [isTidyContent, Bool.and_eq_true] at h
    obtain ⟨text, htext, hsteady⟩ := (Option.any_eq_true _ _).1 h.2
    simp only [Bool.and_eq_true, List.all_eq_true] at hsteady
    exact ⟨text, eq_textNodes_of_heldText? htext, hsteady.1⟩

/-- A line feed is left out of a text. -/
lemma leaveOutLineFeed_textNodes (text : List Char) :
    leaveOutLineFeed (textNodes text) = textNodes (dropLineFeed text) := by
  cases text with
  | nil => rfl
  | cons c cs => simp [textNodes, leaveOutLineFeed]

/-- Text is read as it is. -/
lemma rereadAll_textNodes (text : List Char) : rereadAll (textNodes text) = textNodes text := by
  cases text with
  | nil => rfl
  | cons c cs => simp [textNodes, rereadAll, reread]

/-- A line feed is left out of the first node only. -/
lemma leaveOutLineFeed_cons (n : Node) (ns : List Node) :
    leaveOutLineFeed (n :: ns) = leaveOutLineFeed [n] ++ ns := by
  cases n <;> simp [leaveOutLineFeed]

/-- A line feed is only left out of text. -/
lemma leaveOutLineFeed_of_not_isText {n : Node} (h : n.isText = false) :
    leaveOutLineFeed [n] = [n] := by
  cases n with
  | text _ => simp [isText] at h
  | doctype _ | comment _ | element _ _ _ => rfl

end Node

/-- The document that is read where the document was written. -/
def Document.reread (document : Document) : Document :=
  ⟨Node.rereadAll document.children⟩

namespace Html

open Document (Surroundings rawTextElements voidElements writeNode writeNodes)
open Node (areTidy eq_textNodes_of_heldText? isTidy isTidyContent leaveOutLineFeed leavesOutLineFeed
  isTidyText reread rereadAll)

/-! ### How nodes are written -/

namespace Builder

open Lexer (closeTag isSteadyTag openTag startTag writtenComment writtenText)

/-- Nodes in an element are written as they are anywhere, unless the element is void or holds raw
text. -/
lemma enter_eq {tag : Tag} (hraw : tag.name ∉ rawTextElements) (hvoid : tag.name ∉ voidElements) :
    Surroundings.enter {} tag = {} := by
  simp [Surroundings.enter, hraw, hvoid]

/-- Elements that hold other elements do not hold raw text. -/
lemma notMem_rawTextElements {name : String} (h : (role name).isContainer = true) :
    name ∉ rawTextElements :=
  notMem_of_isContainer (by decide +kernel) h

/-- Elements that hold other elements are not void. -/
lemma notMem_voidElements {name : String} (h : (role name).isContainer = true) :
    name ∉ voidElements :=
  notMem_of_isContainer (by decide +kernel) h

/-- An element is written with its tags around what is written for its children. -/
lemma toList_writeNode_element {tag : Tag} (hvoid : tag.name ∉ voidElements)
    (contents : Option (List Node)) (children : List Node) :
    (writeNode {} (.element tag contents children)).toList =
      openTag tag ++
        ((writeNodes (Surroundings.enter {} tag) children).toList ++ closeTag tag.name) := by
  have hinside : (Surroundings.enter {} tag).untagged = false := by simp [Surroundings.enter, hvoid]
  rw [writeNode]
  simp [hinside, openTag, closeTag]

/-- Text is written as text of its kind. -/
lemma toList_writeNodes_textNodes (around : Surroundings) (text : List Char) :
    (writeNodes around (textNodes text)).toList = Document.writeText around text := by
  cases text with
  | nil => simp [textNodes, writeNodes, Document.writeText]
  | cons c cs => simp [textNodes, Document.writeNodes_singleton, Document.toList_writeNode_text]

/-! ### Before a tag or a comment -/

/-- The source starts with an opening bracket that is not read as text. -/
def StartsWithTag (source : List Char) : Prop :=
  (∃ more, source = '<' :: more) ∧
    ∃ token rest, (∀ foreign, Lexer.next .markup foreign source = (token, rest)) ∧
      ∀ content broken, token ≠ .text content broken

/-- No byte order mark is left out in front of a tag. -/
lemma StartsWithTag.skipMark_eq {source : List Char} (h : StartsWithTag source) :
    Lexer.skipMark source = source := by
  obtain ⟨⟨more, rfl⟩, -⟩ := h
  rfl

/-- Start tags. -/
lemma startsWithTag_openTag {tag : Tag} (h : Lexer.isSteadyTag tag = true) (rest : List Char) :
    StartsWithTag (openTag tag ++ rest) :=
  ⟨⟨_, rfl⟩, _, _, fun foreign => Lexer.next_openTag h foreign rest, by simp⟩

/-- End tags. -/
lemma startsWithTag_closeTag {name : String} (h : Lexer.isTagName name = true) (rest : List Char) :
    StartsWithTag (closeTag name ++ rest) :=
  ⟨⟨_, rfl⟩, _, _, fun foreign => Lexer.next_closeTag h (Or.inl rfl) foreign rest, by simp⟩

/-- Comments. -/
lemma startsWithTag_writtenComment {content : String} (h : Lexer.isSteadyComment content = true)
    (rest : List Char) : StartsWithTag (writtenComment content ++ rest) :=
  ⟨⟨_, rfl⟩, _, _, fun foreign => Lexer.next_writtenComment h foreign rest, by simp⟩

/-- No line feed is left out in front of a tag. -/
lemma StartsWithTag.reads {source : List Char} (h : StartsWithTag source) {b : Builder}
    (hkind : b.textKind = .markup) : Reads b source { b with skipLineFeed := false } source := by
  intro fuel hfuel
  refine ⟨fuel, hfuel, ?_⟩
  cases fuel with
  | zero => rfl
  | succ fuel =>
    obtain ⟨-, token, rest, hnext, htoken⟩ := h
    have hb : Lexer.next b.textKind b.isForeign source = (token, rest) := by rw [hkind, hnext]
    have hb' : Lexer.next { b with skipLineFeed := false }.textKind
        { b with skipLineFeed := false }.isForeign source = (token, rest) := hb
    rw [consume, consume, hb, hb']
    cases token with
    | text content broken => exact absurd rfl (htoken content broken)
    | _ => rfl

/-! ### Text between tags -/

/-- The characters of a shorter text are inserted too. -/
lemma InsertsEach.dropLineFeed {b : Builder} {text : List Char} (h : InsertsEach b text) :
    InsertsEach b (dropLineFeed text) := by
  have hsubset : ∀ c ∈ Builder.dropLineFeed text, c ∈ text := by
    unfold Builder.dropLineFeed
    split
    · exact fun c hc => List.mem_cons_of_mem _ hc
    · exact fun c hc => hc
  exact fun arena ok hkind c hc => h arena ok hkind c (hsubset c hc)

/-- Text is read up to the next tag, without a line feed that is left out. -/
lemma exists_reads_text {b : Builder} {name : String} {names : List String}
    (h : Stands { b with skipLineFeed := false } (name :: names))
    (hlast : b.arena.endsInText b.current = false) {text : List Char} (hne : text ≠ [])
    (heach : InsertsEach { b with skipLineFeed := false } text) {rest : List Char}
    (hrest : StartsWithTag rest) :
    ∃ b', Reads b (text.flatMap Document.writeTextChar ++ rest) b' rest ∧
      Grows { b with skipLineFeed := false } b'
        (textNodes (if b.skipLineFeed then dropLineFeed text else text)) := by
  have hkind : b.textKind = .markup := h.textKind
  have hreads :
      Reads b (text.flatMap Document.writeTextChar ++ rest) (b.feed (.text text)) rest := by
    obtain ⟨⟨more, rfl⟩, -⟩ := hrest
    obtain ⟨c, cs, hcs, -⟩ := Lexer.exists_writeText_eq_cons hne
    refine reads_token ?_ (by simp [hcs]) (by simp) (by rw [hkind]; rfl)
    rw [hkind]
    exact Lexer.next_writeText hne _ _
  refine ⟨_, hreads, ?_⟩
  rw [feed_text]
  have hshown : InsertsEach { b with skipLineFeed := false }
      (if b.skipLineFeed then dropLineFeed text else text) := by
    split
    · exact heach.dropLineFeed
    · exact heach
  generalize (if b.skipLineFeed then dropLineFeed text else text) = shown at hshown
  by_cases hempty : shown = []
  · subst hempty
    exact .refl _
  · obtain ⟨arena, ok, hfold, hextends⟩ := exists_text_eq h.current_lt_size hlast hempty hshown
    have hnodes : textNodes shown = [.text (String.ofList shown)] := by simp [textNodes, hempty]
    rw [hfold, hnodes]
    exact ⟨hextends, rfl, .refl _⟩

/-- Text is inserted by rules that put each of its characters into the innermost element. -/
lemma Stands.insertsEach {b : Builder} {name : String} {names : List String}
    (h : Stands b (name :: names)) {text : List Char}
    (hstep : ∀ b' : Builder, Stands b' (name :: names) → b'.mode = b.mode → ∀ c ∈ text,
      ∃ ok, b'.stepMode (.char c) = .done { b'.insertChar c with framesetOk := ok }) :
    InsertsEach b text := by
  intro arena ok hkind c hc
  have hb : Stands { b with arena, framesetOk := ok } (name :: names) :=
    h.congr rfl hkind fun _ _ hmem => hmem
  obtain ⟨ok', hstep⟩ := hstep _ hb rfl c hc
  refine ⟨ok', take_of_step_eq_done ?_⟩
  rw [hb.step_eq, hstep, insertChar, hb.placeIn_eq]
  rfl

/-- Text in the body. -/
lemma InBody.insertsEach {b : Builder} {name : String} {names : List String} (hbody : InBody b)
    (h : Stands b (name :: names)) {text : List Char} (hsteady : ∀ c ∈ text, isSteady c = true) :
    InsertsEach b text := by
  refine h.insertsEach fun b' hb' hmode c hc => ?_
  have hnull : c ≠ '\x00' := by
    have hc := hsteady c hc
    simp only [isSteady, Bool.and_eq_true, bne_iff_ne] at hc
    exact hc.2
  have hstep : b'.stepMode (.char c) = .done (if isBlank c then b'.reconstruct.insertChar c else
      (b'.reconstruct.insertChar c).noFrameset) := by
    rw [stepMode, hmode, hbody.mode]
    exact if_neg hnull
  rw [hstep, hb'.reconstruct_eq]
  split
  · exact ⟨(b'.insertChar c).framesetOk, rfl⟩
  · exact ⟨false, rfl⟩

/-! ### Elements without other elements in them -/

/-- The elements that hold text only, and how it is read. -/
def textElements : List (String × TextKind) :=
  [("title", .escapable "title"), ("textarea", .escapable "textarea"), ("script", .script),
    ("style", .raw "style"), ("noframes", .raw "noframes"), ("xmp", .raw "xmp"),
    ("iframe", .raw "iframe"), ("noembed", .raw "noembed"), ("noscript", .raw "noscript")]

/-- An element that holds text only is one of those. -/
lemma mem_textElements {name : String} {kind : TextKind} (h : role name = .text kind) :
    (name, kind) ∈ textElements := by
  rcases role_cases name with hordinary | ⟨group, hgroup, hmem⟩
  · exact absurd (h.symm.trans hordinary) (by simp)
  · rw [h] at hgroup
    simp only [roles, List.mem_cons, Prod.mk.injEq, List.not_mem_nil, reduceCtorEq, and_false,
      Role.text.injEq, or_false, false_or] at hgroup
    rcases hgroup with ⟨rfl, rfl⟩ | ⟨rfl, rfl⟩ | ⟨rfl, rfl⟩ | ⟨rfl, rfl⟩ | ⟨rfl, rfl⟩ | ⟨rfl, rfl⟩ |
      ⟨rfl, rfl⟩ | ⟨rfl, rfl⟩ | ⟨rfl, rfl⟩ <;>
    · rw [List.mem_singleton.1 hmem]
      decide

/-- Whether text of the kind is written without references. -/
def isRaw : TextKind → Bool
  | .escapable _ => false
  | _ => true

/-- The text of such an element is written as it is read. -/
lemma writeText_enter {tag : Tag} (htag : tag.vocabulary = .html) {kind : TextKind}
    (h : (tag.name, kind) ∈ textElements) (text : List Char) :
    Document.writeText (Surroundings.enter {} tag) text = writtenText kind text := by
  have hraw : ∀ e ∈ textElements, rawTextElements.contains e.1 = isRaw e.2 := by decide
  have henter : (Surroundings.enter {} tag).rawText = rawTextElements.contains tag.name := by
    simp [Surroundings.enter, htag]
  rw [Document.writeText, henter, hraw _ h]
  cases kind <;> rfl

/-- What the start tag of an element that holds no other elements does. -/
def Starts (b : Builder) (tag : Tag) : Role → Prop
  | .void =>
    ∃ b', b.stepMode (.startTag (startTag tag)) = .done b' ∧ Grows b b' [.element tag none []]
  | .text kind => ∃ opened, b.stepMode (.startTag (startTag tag)) = .done opened ∧
    InText b opened tag kind (leavesOutLineFeed tag.name)
  | .template => b.stepMode (.startTag (startTag tag)) = .done (b.openTemplate (startTag tag))
  | _ => False

namespace Stands

variable {b : Builder} {name : String} {names : List String} {tag : Tag}

/-- An element without content is read. -/
lemma exists_reads_void (h : Stands b (name :: names)) (hsteady : isSteadyTag tag = true)
    (hr : role tag.name = .void) {contents : Option (List Node)} {children : List Node}
    (hcontent : isTidyContent contents children .void = true) (hstarts : Starts b tag .void)
    (rest : List Char) :
    ∃ b', Reads b ((writeNode {} (.element tag contents children)).toList ++ rest) b' rest ∧
      Grows b b' [reread (.element tag contents children)] := by
  simp only [isTidyContent, Bool.and_eq_true, Option.isNone_iff_eq_none, List.isEmpty_iff]
    at hcontent
  obtain ⟨rfl, rfl⟩ := hcontent
  obtain ⟨b', hstep, hgrows⟩ := hstarts
  have hall : ∀ n ∈ emptyElements, n ∈ voidElements := by decide
  have hvoid := hall tag.name (mem_of_role_eq hr (by decide) (by decide))
  have hwritten : (writeNode {} (.element tag none [])).toList = openTag tag := by
    simp [writeNode, writeNodes, Surroundings.enter, Lexer.vocabulary_eq hsteady, hvoid, openTag]
  have hreread : reread (.element tag none []) = .element tag none [] := by
    simp [reread, rereadAll, leaveOutLineFeed]
  rw [hwritten, hreread]
  exact ⟨b', h.reads_startTag hsteady hstep rest, hgrows⟩

/-- An element that holds text only is read. -/
lemma exists_reads_textElement (h : Stands b (name :: names)) (hsteady : isSteadyTag tag = true)
    {kind : TextKind} (hr : role tag.name = .text kind) {contents : Option (List Node)}
    {children : List Node} (hcontent : isTidyContent contents children (.text kind) = true)
    (hstarts : Starts b tag (.text kind)) {rest : List Char} (hmark : Lexer.skipMark rest = rest) :
    ∃ b', Reads b ((writeNode {} (.element tag contents children)).toList ++ rest) b' rest ∧
      Grows b b' [reread (.element tag contents children)] := by
  simp only [isTidyContent, Bool.and_eq_true, Option.isNone_iff_eq_none] at hcontent
  obtain ⟨rfl, hheld⟩ := hcontent
  obtain ⟨text, htext, hholds⟩ := (Option.any_eq_true _ _).1 hheld
  obtain rfl := eq_textNodes_of_heldText? htext
  simp only [Bool.and_eq_true, List.all_eq_true] at hholds
  obtain ⟨opened, hstep, hinText⟩ := hstarts
  have hmem := mem_textElements hr
  have hall : ∀ e ∈ textElements, Lexer.element? e.2 = some e.1 ∧ '<' ∉ e.1.toList ∧
      e.1 ≠ "template" ∧ e.1 ∉ voidElements := by decide
  obtain ⟨hkind, hless, htemplate, hvoid⟩ := hall _ hmem
  obtain ⟨b', hreads, hgrows⟩ := hinText.exists_reads h (Lexer.vocabulary_eq hsteady)
    (Lexer.isTagName_name hsteady) hless htemplate hkind hholds.1 hholds.2 hmark
  have hwritten : (writeNode {} (.element tag none (textNodes text))).toList =
      openTag tag ++ (writtenText kind text ++ closeTag tag.name) := by
    rw [toList_writeNode_element hvoid, toList_writeNodes_textNodes,
      writeText_enter (Lexer.vocabulary_eq hsteady) hmem]
  have hreread : reread (.element tag none (textNodes text)) = .element tag none
      (textNodes (if leavesOutLineFeed tag.name then dropLineFeed text else text)) := by
    rw [reread, Node.rereadAll_textNodes, Node.leaveOutLineFeed_textNodes]
    split <;> rfl
  rw [hwritten, hreread, List.append_assoc, List.append_assoc]
  exact ⟨b', (h.reads_startTag hsteady hstep _).trans hreads, hgrows⟩

/-- A template is read, without its contents. -/
lemma exists_reads_emptied (h : Stands b (name :: names))
    (hfitting : b.fittingMode b.stack = b.mode) (hsteady : isSteadyTag tag = true)
    (hr : role tag.name = .template) {contents : Option (List Node)} {children : List Node}
    (hcontent : isTidyContent contents children .template = true) (hstarts : Starts b tag .template)
    (rest : List Char) :
    ∃ b', Reads b ((writeNode {} (.element tag contents children)).toList ++ rest) b' rest ∧
      Grows b b' [reread (.element tag contents children)] := by
  simp only [isTidyContent, Bool.and_eq_true, List.isEmpty_iff] at hcontent
  obtain ⟨hcontents, rfl⟩ := hcontent
  obtain ⟨lost, rfl⟩ := Option.isSome_iff_exists.1 hcontents
  have htemplate : tag.name = "template" :=
    List.mem_singleton.1 (mem_of_role_eq hr (by decide) (by decide))
  have hwritten : (writeNode {} (.element tag (some lost) [])).toList =
      openTag tag ++ closeTag "template" := by
    rw [toList_writeNode_element (by rw [htemplate]; decide)]
    simp [writeNodes, htemplate]
  have hreread : reread (.element tag (some lost) []) = .element tag (some []) [] := by
    simp [reread, rereadAll, leaveOutLineFeed]
  rw [hwritten, hreread, List.append_assoc]
  exact h.exists_reads_template hsteady htemplate hstarts hfitting rest

/-- An element that holds no other elements is read, if its start tag does what it should. -/
lemma exists_reads_content (h : Stands b (name :: names))
    (hfitting : b.fittingMode b.stack = b.mode) (hsteady : isSteadyTag tag = true)
    {contents : Option (List Node)} {children : List Node}
    (hcontent : isTidyContent contents children (role tag.name) = true)
    (hstarts : Starts b tag (role tag.name)) {rest : List Char}
    (hmark : Lexer.skipMark rest = rest) :
    ∃ b', Reads b ((writeNode {} (.element tag contents children)).toList ++ rest) b' rest ∧
      Grows b b' [reread (.element tag contents children)] := by
  cases hr : role tag.name with
  | ordinary | paragraph | block | heading | preformatted | item _ | button | option | ruby |
    formatting | enclosing | form | other => simp [hr, isTidyContent] at hcontent
  | void => exact h.exists_reads_void hsteady hr (hr ▸ hcontent) (hr ▸ hstarts) rest
  | text kind => exact h.exists_reads_textElement hsteady hr (hr ▸ hcontent) (hr ▸ hstarts) hmark
  | template => exact h.exists_reads_emptied hfitting hsteady hr (hr ▸ hcontent) (hr ▸ hstarts) rest

/-! ### Start tags of such elements -/

/-- Inserting an element that holds text only. -/
lemma inText_insertTextElement (h : Stands b (name :: names)) (htag : tag.vocabulary = .html)
    (hname : tag.name ≠ "template") (kind : TextKind) :
    InText b (b.insertTextElement (startTag tag) kind) tag kind false := by
  have htemplate : Arena.isTemplate tag = false := by simp [Arena.isTemplate, hname]
  obtain ⟨arena, i, hopen, hopened⟩ := h.exists_insertOpen_eq htemplate
  have hinsert : b.insertTextElement (startTag tag) kind =
      { b with
        arena, stack := i :: b.stack, textKind := kind, returnMode := b.mode, mode := .text,
        skipLineFeed := false } := by
    rw [insertTextElement, insertHtml, htmlTag_startTag htag, hopen, ← h.skipLineFeed]
  rw [hinsert]
  exact ⟨hopened, rfl, rfl, rfl⟩

/-- The tags that belong in a head start elements wherever they are taken. -/
lemma starts_of_mem_headElements (h : Stands b (name :: names))
    (htakes : ∀ item b', b.headContent? item = some b' → b.stepMode item = .done b')
    (htag : tag.vocabulary = .html) (hmem : tag.name ∈ headElements) :
    Starts b tag (role tag.name) := by
  obtain ⟨tagName, attributes, vocabulary⟩ := tag
  obtain rfl : vocabulary = .html := htag
  have hvoid : Arena.isTemplate { name := tagName, attributes } = false →
      Grows b (b.insertVoid (startTag { name := tagName, attributes }))
        [.element { name := tagName, attributes } none []] := fun h' => h.grows_insertClosed h'
  have htext : tagName ≠ "template" → ∀ kind, InText b
      (b.insertTextElement (startTag { name := tagName, attributes }) kind)
      { name := tagName, attributes } kind false := fun h' => h.inText_insertTextElement rfl h'
  simp only [headElements, List.mem_cons, List.not_mem_nil, or_false] at hmem
  rcases hmem with rfl | rfl | rfl | rfl | rfl | rfl | rfl | rfl | rfl | rfl
  iterate 5 exact ⟨_, htakes _ _ rfl, hvoid rfl⟩
  iterate 4 exact ⟨_, htakes _ _ rfl, htext (by decide) _⟩
  exact htakes _ _ rfl

/-- The start tag of an element without content inserts it, if there is no paragraph to close. -/
lemma exists_startInBody_void (h : Stands b (name :: names)) (htag : tag.vocabulary = .html)
    (hmem : tag.name ∈ emptyElements) (hhead : tag.name ∉ headElements)
    (hp : tag.name = "hr" → holdsParagraph (name :: names) = false) :
    ∃ ok, b.startInBody (startTag tag) =
      { b.insertVoid (startTag tag) with framesetOk := ok } := by
  obtain ⟨tagName, attributes, vocabulary⟩ := tag
  obtain rfl : vocabulary = .html := htag
  simp only [headElements, List.mem_cons, List.not_mem_nil, or_false, not_or] at hhead
  simp only [emptyElements, List.mem_cons, List.not_mem_nil, or_false, hhead, false_or] at hmem
  -- what formatting would be opened again is still open
  have hshown : (b.reconstruct.insertVoid (startTag { name := tagName, attributes })).noFrameset =
      { b.insertVoid (startTag { name := tagName, attributes }) with framesetOk := false } := by
    rw [h.reconstruct_eq]
    rfl
  rcases hmem with rfl | rfl | rfl | rfl | rfl | rfl | rfl | rfl | rfl | rfl | rfl
  iterate 3 exact ⟨false, hshown⟩
  · refine ⟨false, ?_⟩
    have hstart : b.startInBody (startTag { name := "hr", attributes }) =
        (b.closeParagraphInScope.insertVoid
          (startTag { name := "hr", attributes })).noFrameset := rfl
    rw [hstart, h.closeParagraphInScope_eq (hp rfl)]
    rfl
  · exact ⟨false, hshown⟩
  · have hstart : b.startInBody (startTag { name := "input", attributes }) =
        if isHidden (startTag { name := "input", attributes }) then
          b.reconstruct.insertVoid (startTag { name := "input", attributes })
        else (b.reconstruct.insertVoid (startTag { name := "input", attributes })).noFrameset := rfl
    rw [hstart, h.reconstruct_eq]
    split
    · exact ⟨_, rfl⟩
    · exact ⟨false, rfl⟩
  · exact ⟨false, hshown⟩
  iterate 3 exact ⟨_, rfl⟩
  · exact ⟨false, hshown⟩

/-- The start tag of an element that holds text only starts it, if there is no paragraph to
close. -/
lemma inText_startInBody (h : Stands b (name :: names)) (htag : tag.vocabulary = .html)
    {kind : TextKind} (hmem : (tag.name, kind) ∈ textElements) (hhead : tag.name ∉ headElements)
    (hp : tag.name = "xmp" → holdsParagraph (name :: names) = false) :
    InText b (b.startInBody (startTag tag)) tag kind (leavesOutLineFeed tag.name) := by
  have hname : tag.name ≠ "template" := fun heq => hhead (heq ▸ by decide)
  have hb : Stands b.noFrameset (name :: names) := h.congr rfl (fun _ _ => rfl) fun _ _ hmem => hmem
  -- whether framesets are allowed makes no difference
  have hinText : InText b (b.noFrameset.insertTextElement (startTag tag) kind) tag kind false := by
    have hinText := hb.inText_insertTextElement htag hname kind
    exact ⟨hinText.arena, hinText.frame, hinText.returnMode, hinText.formatting⟩
  have hinText' := h.inText_insertTextElement htag hname kind
  obtain ⟨tagName, attributes, vocabulary⟩ := tag
  obtain rfl : vocabulary = .html := htag
  simp only [headElements, List.mem_cons, List.not_mem_nil, or_false, not_or] at hhead
  simp only [textElements, List.mem_cons, Prod.mk.injEq, List.not_mem_nil, or_false, hhead,
    false_and, false_or] at hmem
  rcases hmem with ⟨rfl, rfl⟩ | ⟨rfl, rfl⟩ | ⟨rfl, rfl⟩ | ⟨rfl, rfl⟩ | ⟨rfl, rfl⟩
  · refine ⟨hinText.arena, ?_, hinText.returnMode, hinText.formatting⟩
    exact (congrArg (fun f : Builder => { f with skipLineFeed := true }) hinText.frame :)
  · have hstart : b.startInBody (startTag { name := "xmp", attributes }) =
        b.closeParagraphInScope.reconstruct.noFrameset.insertTextElement
          (startTag { name := "xmp", attributes }) (.raw "xmp") := rfl
    rw [hstart, h.closeParagraphInScope_eq (hp rfl), h.reconstruct_eq]
    exact hinText
  · exact hinText
  · exact hinText'
  · exact hinText'

end Stands

/-- In the body, the tags that belong in a head are taken as they are there. -/
lemma InBody.stepMode_eq_done {b b' : Builder} (hbody : InBody b) {item : Item}
    (h : b.headContent? item = some b') : b.stepMode item = .done b' := by
  rw [stepMode, hbody.mode]
  simp only [stepInBody, h]

/-- In the body, start tags are taken by its rules. -/
lemma InBody.stepMode_startTag {b : Builder} (hbody : InBody b) {tag : StartTag}
    (hhead : tag.name ∉ headElements) :
    b.stepMode (.startTag tag) = .done (b.startInBody tag) := by
  rw [stepMode, hbody.mode]
  simp only [stepInBody, headContent?_eq_none b hhead]

/-- The start tag of an element that holds no other elements starts it in the body, if it fits. -/
lemma InBody.starts {b : Builder} {name : String} {names : List String} {tag : Tag}
    (hbody : InBody b) (h : Stands b (name :: names)) (htag : tag.vocabulary = .html)
    (hfits : fits (name :: names) tag.name (role tag.name) = true)
    {contents : Option (List Node)} {children : List Node}
    (hcontent : isTidyContent contents children (role tag.name) = true) :
    Starts b tag (role tag.name) := by
  by_cases hhead : tag.name ∈ headElements
  · exact h.starts_of_mem_headElements (fun _ _ => hbody.stepMode_eq_done) htag hhead
  have hstep : b.stepMode (.startTag (startTag tag)) = .done (b.startInBody (startTag tag)) :=
    hbody.stepMode_startTag hhead
  cases hr : role tag.name with
  | ordinary | paragraph | block | heading | preformatted | item _ | button | option | ruby |
    formatting | enclosing | form | other => simp [hr, isTidyContent] at hcontent
  | void =>
    have hmem : tag.name ∈ emptyElements := mem_of_role_eq hr (by decide) (by decide)
    rw [hr] at hfits
    obtain ⟨ok, hstart⟩ := h.exists_startInBody_void htag hmem hhead fun hhr => by
      simpa [fits, hhr] using hfits
    have htemplate : Arena.isTemplate tag = false := by
      have hne : tag.name ≠ "template" := fun heq => hhead (heq ▸ by decide)
      simp [Arena.isTemplate, hne]
    have hgrows : Grows b (b.insertVoid (startTag tag)) [.element tag none []] := by
      rw [insertVoid, htmlTag_startTag htag]
      exact h.grows_insertClosed htemplate
    exact ⟨_, hstep.trans (congrArg Step.done hstart), hgrows.arena, hgrows.frame,
      hgrows.formatting⟩
  | text kind =>
    rw [hr] at hfits
    refine ⟨_, hstep, h.inText_startInBody htag (mem_textElements hr) hhead fun hxmp => ?_⟩
    simpa [fits, hxmp] using hfits
  | template =>
    have hmem : tag.name ∈ ["template"] := mem_of_role_eq hr (by decide) (by decide)
    exact absurd (List.mem_singleton.1 hmem ▸ (by decide)) hhead

/-! ### What a node starts with -/

/-- A comment is written as such. -/
lemma toList_writeNode_comment (around : Surroundings) (content : String) :
    (writeNode around (.comment content)).toList = writtenComment content := by
  simp [writeNode, writtenComment]

/-- A node that is no text starts with a tag, or is a comment. -/
lemma startsWithTag_writeNode {names : List String} {n : Node} (h : isTidy names n = true)
    (htext : n.isText = false) (rest : List Char) :
    StartsWithTag ((writeNode {} n).toList ++ rest) := by
  cases n with
  | doctype _ => simp [isTidy] at h
  | text _ => simp [Node.isText] at htext
  | comment content =>
    rw [toList_writeNode_comment]
    exact startsWithTag_writtenComment (by simpa [isTidy] using h) rest
  | element tag contents children =>
    simp only [isTidy, Bool.and_eq_true] at h
    obtain ⟨more, hmore⟩ : ∃ more, (writeNode {} (.element tag contents children)).toList =
        openTag tag ++ more := by
      simp only [writeNode, openTag, String.toList_append, Bool.false_eq_true, if_false,
        List.append_assoc, List.cons_append]
      exact ⟨_, rfl⟩
    rw [hmore, List.append_assoc]
    exact startsWithTag_openTag h.1.1 _

/-- After a text comes a tag or a comment. -/
lemma startsWithTag_writeNodes {names : List String} {ns : List Node}
    (h : areTidy names true ns = true) {rest : List Char} (hrest : StartsWithTag rest) :
    StartsWithTag ((writeNodes {} ns).toList ++ rest) := by
  cases ns with
  | nil => simpa [writeNodes] using hrest
  | cons n ns =>
    simp only [areTidy, Bool.true_and, Bool.and_eq_true, Bool.not_eq_true'] at h
    rw [writeNodes, String.toList_append, List.append_assoc]
    exact startsWithTag_writeNode h.1.2 h.1.1 _

/-- No byte order mark is left out in front of text that does not start with one. -/
lemma skipMark_writeText {content : String} (h : isTidyText content = true) (rest : List Char) :
    Lexer.skipMark (content.toList.flatMap Document.writeTextChar ++ rest) =
      content.toList.flatMap Document.writeTextChar ++ rest := by
  simp only [isTidyText, Bool.and_eq_true, Bool.not_eq_true', bne_iff_ne] at h
  cases hcontent : content.toList with
  | nil => simp [hcontent] at h
  | cons c cs =>
    have hc : c ≠ '\ufeff' := fun heq => h.2 (by rw [hcontent, heq]; rfl)
    obtain ⟨d, ds, hds, hd⟩ : ∃ d ds, Document.writeTextChar c = d :: ds ∧ d ≠ '\ufeff' := by
      unfold Document.writeTextChar
      split
      iterate 4 exact ⟨'&', _, rfl, by decide⟩
      exact ⟨c, [], rfl, hc⟩
    rw [List.flatMap_cons, hds]
    unfold Lexer.skipMark
    split
    · next heq => exact absurd (List.cons.inj heq).1 hd
    · rfl

/-- No byte order mark is left out in front of siblings. -/
lemma skipMark_writeNodes {names : List String} {afterText : Bool} {ns : List Node}
    (h : areTidy names afterText ns = true) {rest : List Char} (hrest : StartsWithTag rest) :
    Lexer.skipMark ((writeNodes {} ns).toList ++ rest) = (writeNodes {} ns).toList ++ rest := by
  cases ns with
  | nil => simpa [writeNodes] using hrest.skipMark_eq
  | cons n ns =>
    simp only [areTidy, Bool.and_eq_true] at h
    rw [writeNodes, String.toList_append, List.append_assoc]
    cases n with
    | text content =>
      have hwritten : (writeNode {} (.text content)).toList =
          content.toList.flatMap Document.writeTextChar := Document.toList_writeNode_text {} content
      rw [hwritten]
      exact skipMark_writeText (by simpa [isTidy] using h.1.2) _
    | doctype _ | comment _ | element _ _ _ =>
      exact (startsWithTag_writeNode h.1.2 rfl _).skipMark_eq

/-! ### Reading nodes -/

/-- The elements whose start tag leaves out a line feed, among those that hold other elements. -/
lemma leavesOutLineFeed_eq {name : String} (h : (role name).isContainer = true) :
    leavesOutLineFeed name = decide (role name = .preformatted) := by
  have hall : ∀ n ∈ ["pre", "listing", "textarea"], (role n).isContainer = true →
      role n = .preformatted := by decide
  by_cases hr : role name = .preformatted
  · have hmem : name ∈ ["pre", "listing"] := mem_of_role_eq hr (by decide) (by decide)
    rw [leavesOutLineFeed, decide_eq_true hr, List.contains_iff_mem]
    exact List.mem_append_left ["textarea"] hmem
  · rw [leavesOutLineFeed, decide_eq_false hr, Bool.eq_false_iff]
    exact fun hmem => hr (hall name (List.contains_iff_mem.1 hmem) h)

/-- Elements that hold other elements do not belong in a head. -/
lemma notMem_headElements {name : String} (h : (role name).isContainer = true) :
    name ∉ headElements :=
  notMem_of_isContainer (by decide) h

/-- In the body, end tags are taken by its rules. -/
lemma InBody.stepMode_endTag {b : Builder} (hbody : InBody b) {name : String}
    (hname : name ≠ "template") : b.stepMode (.endTag name) = b.endInBody name := by
  have hhead : b.headContent? (.endTag name) = none := by simp [headContent?, hname]
  rw [stepMode, hbody.mode]
  simp only [stepInBody, hhead]

/-- No line feed is left out in an element that has been read into. -/
lemma Stands.withoutSkip {b : Builder} {names : List String} (h : Stands b names) :
    { b with skipLineFeed := false } = b := by
  rw [← h.skipLineFeed]

/-- A text is read where it was written, without a line feed that is left out. -/
lemma exists_reads_textNode {b : Builder} {name : String} {names : List String}
    (h : Stands { b with skipLineFeed := false } (name :: names)) {content : String}
    (hcontent : isTidyText content = true)
    (heach : InsertsEach { b with skipLineFeed := false } content.toList)
    (hlast : b.arena.endsInText b.current = false) {rest : List Char} (hrest : StartsWithTag rest) :
    ∃ b', Reads b ((writeNode {} (.text content)).toList ++ rest) b' rest ∧
      Grows { b with skipLineFeed := false } b'
        (if b.skipLineFeed then leaveOutLineFeed [.text content] else [.text content]) := by
  have hne : content.toList ≠ [] := by
    intro heq
    simp [isTidyText, heq] at hcontent
  have hwritten : (writeNode {} (.text content)).toList =
      content.toList.flatMap Document.writeTextChar := Document.toList_writeNode_text {} content
  have hnode : [Node.text content] = textNodes content.toList := by simp [textNodes, hne]
  rw [hwritten, hnode, Node.leaveOutLineFeed_textNodes, ← apply_ite]
  exact exists_reads_text h hlast hne heach hrest

mutual

/-- A node is read where it was written. -/
lemma exists_reads_node : ∀ (n : Node) {b : Builder} {name : String} {names : List String}
    {rest : List Char}, isTidy (name :: names) n = true → n.isText = false → InBody b →
    Stands b (name :: names) → Lexer.skipMark rest = rest →
    ∃ b', Reads b ((writeNode {} n).toList ++ rest) b' rest ∧ Grows b b' [reread n]
  | .doctype _, _, _, _, _, htidy, _, _, _, _ => by simp [isTidy] at htidy
  | .text _, _, _, _, _, _, htext, _, _, _ => by simp [Node.isText] at htext
  | .comment content, b, name, names, rest, htidy, _, hbody, h, _ => by
    have hstep : b.stepMode (.comment content) = .done (b.insertComment content) := by
      rw [stepMode, hbody.mode]
      rfl
    rw [toList_writeNode_comment]
    exact ⟨_, h.reads_comment (by simpa [isTidy] using htidy) hstep rest,
      h.grows_insertComment content⟩
  | .element tag contents children, b, name, names, rest, htidy, _, hbody, h, hmark => by
    simp only [isTidy, Bool.and_eq_true, Bool.or_eq_true] at htidy
    obtain ⟨⟨hsteady, hfits⟩, hcontent | ⟨⟨hrole, hnone⟩, hchildren⟩⟩ := htidy
    · exact h.exists_reads_content (hbody.fitting.trans hbody.mode.symm) hsteady hcontent
        (hbody.starts h (Lexer.vocabulary_eq hsteady) hfits hcontent) hmark
    -- the element is entered, its children are read in it, and its end tag leaves it
    obtain rfl := Option.isNone_iff_eq_none.1 hnone
    have hname := Lexer.isTagName_name hsteady
    have henters := h.enters hbody (Lexer.vocabulary_eq hsteady) hrole hfits
    have hstep : b.stepMode (.startTag (startTag tag)) = .done (b.startInBody (startTag tag)) :=
      hbody.stepMode_startTag (notMem_headElements hrole)
    generalize b.startInBody (startTag tag) = opened at henters hstep
    obtain ⟨inner, hinner, hgrows⟩ := exists_reads_nodes children hchildren henters.inBody
      henters.stands (Or.inr henters.arena.endsInText_eq) (startsWithTag_closeTag hname rest)
    obtain ⟨closed, hend, harena, hframe, hformatting⟩ := henters.leaves hgrows
    have htemplate : tag.name ≠ "template" := fun heq => notMem_headElements hrole (heq ▸ by decide)
    have hinBody : InBody inner := henters.inBody.of_grows henters.stands hgrows
    have hclose : Reads inner (closeTag tag.name ++ rest) closed rest :=
      (henters.stands.of_grows hgrows).reads_endTag hname
        ((hinBody.stepMode_endTag htemplate).trans hend) rest
    have hvoid := notMem_voidElements hrole
    rw [toList_writeNode_element hvoid, enter_eq (notMem_rawTextElements hrole) hvoid,
      List.append_assoc, List.append_assoc, reread, leavesOutLineFeed_eq hrole,
      ← henters.skipLineFeed]
    refine ⟨closed, (h.reads_startTag hsteady hstep _).trans (hinner.trans hclose), ?_⟩
    have hopened : b.arena.Opened { opened with skipLineFeed := false }.arena b.current tag none
        { opened with skipLineFeed := false }.current := henters.arena
    exact Grows.element hopened h.current_lt_size hgrows harena hframe hformatting

/-- Siblings are read where they were written. -/
lemma exists_reads_nodes : ∀ (ns : List Node) {b : Builder} {name : String} {names : List String}
    {afterText : Bool} {rest : List Char}, areTidy (name :: names) afterText ns = true →
    InBody { b with skipLineFeed := false } →
      Stands { b with skipLineFeed := false } (name :: names) →
    (afterText = true ∨ b.arena.endsInText b.current = false) → StartsWithTag rest →
    ∃ b', Reads b ((writeNodes {} ns).toList ++ rest) b' rest ∧
      Grows { b with skipLineFeed := false } b'
        (if b.skipLineFeed then leaveOutLineFeed (rereadAll ns) else rereadAll ns)
  | [], b, _, _, _, rest, _, _, h, _, hrest => by
    have hnodes :
        (if b.skipLineFeed then leaveOutLineFeed (rereadAll []) else rereadAll []) = [] := by
      simp [rereadAll, leaveOutLineFeed]
    have hkind : b.textKind = .markup := h.textKind
    rw [hnodes]
    exact ⟨_, by simpa [writeNodes] using hrest.reads hkind, .refl _⟩
  | n :: ns, b, name, names, afterText, rest, htidy, hbody, h, hlast, hrest => by
    simp only [areTidy, Bool.and_eq_true, Bool.not_eq_true'] at htidy
    obtain ⟨⟨hafter, hn⟩, hns⟩ := htidy
    obtain ⟨b₁, hreads, hgrows⟩ : ∃ b₁,
        Reads b ((writeNode {} n).toList ++ ((writeNodes {} ns).toList ++ rest)) b₁
          ((writeNodes {} ns).toList ++ rest) ∧
        Grows { b with skipLineFeed := false } b₁
          (if b.skipLineFeed then leaveOutLineFeed [reread n] else [reread n]) := by
      cases htext : n.isText with
      | false =>
        have htag := startsWithTag_writeNode hn htext ((writeNodes {} ns).toList ++ rest)
        have hkind : b.textKind = .markup := h.textKind
        obtain ⟨b₁, hreads, hgrows⟩ :=
          exists_reads_node n hn htext hbody h (skipMark_writeNodes hns hrest)
        rw [Node.leaveOutLineFeed_of_not_isText ((Node.isText_reread n).trans htext), ite_self]
        exact ⟨b₁, (htag.reads hkind).trans hreads, hgrows⟩
      | true =>
        obtain ⟨content, rfl⟩ := Node.exists_eq_text htext
        have hcontent : isTidyText content = true := by simpa [isTidy] using hn
        have hends := hlast.resolve_left (by simpa [Node.isText] using hafter)
        exact exists_reads_textNode h hcontent
          (hbody.insertsEach h (Node.isSteady_of_isTidyText hcontent)) hends
          (startsWithTag_writeNodes hns hrest)
    have hlast₁ : n.isText = true ∨ b₁.arena.endsInText b₁.current = false := by
      cases htext : n.isText with
      | true => exact Or.inl rfl
      | false =>
        rw [Node.leaveOutLineFeed_of_not_isText ((Node.isText_reread n).trans htext), ite_self]
          at hgrows
        exact Or.inr
          ((hgrows.endsInText_eq h.current_lt_size).trans ((Node.isText_reread n).trans htext))
    have hstands := h.of_grows hgrows
    obtain ⟨b₂, hreads', hgrows'⟩ := exists_reads_nodes ns hns
      (hstands.withoutSkip.symm ▸ hbody.of_grows h hgrows) (hstands.withoutSkip.symm ▸ hstands)
        hlast₁
      hrest
    rw [hstands.withoutSkip, hstands.skipLineFeed] at hgrows'
    have hnodes : (if b.skipLineFeed then leaveOutLineFeed (rereadAll (n :: ns)) else
        rereadAll (n :: ns)) =
        (if b.skipLineFeed then leaveOutLineFeed [reread n] else [reread n]) ++ rereadAll ns := by
      rw [rereadAll, Node.leaveOutLineFeed_cons]
      split <;> rfl
    rw [hnodes, writeNodes, String.toList_append, List.append_assoc]
    exact ⟨b₂, hreads.trans hreads', hgrows.trans hgrows' h.current_lt_size⟩

end

/-! ### Steady nodes -/

/-- Text is written in steady characters. -/
lemma all_isSteady_writeText (around : Surroundings) {text : List Char}
    (h : ∀ c ∈ text, isSteady c = true) : (Document.writeText around text).all isSteady = true := by
  unfold Document.writeText
  split
  · exact List.all_eq_true.2 h
  · exact List.all_eq_true.2 fun x hx => Lexer.isSteady_of_mem_writeText h hx

/-- The content of an element that holds no other elements is written in steady characters. -/
lemma all_isSteady_of_isTidyContent {contents : Option (List Node)} {children : List Node}
    {r : Role} (h : isTidyContent contents children r = true) (around : Surroundings) :
    (writeNodes around children).toList.all isSteady = true := by
  obtain ⟨text, rfl, hsteady⟩ := Node.exists_eq_textNodes_of_isTidyContent h
  rw [toList_writeNodes_textNodes]
  exact all_isSteady_writeText around hsteady

mutual

/-- A node is written in steady characters. -/
lemma all_isSteady_writeNode : ∀ (n : Node) {names : List String} (around : Surroundings),
    isTidy names n = true → (writeNode around n).toList.all isSteady = true
  | .doctype _, _, _, h => by simp [isTidy] at h
  | .text content, _, around, h => by
    rw [Document.toList_writeNode_text]
    exact all_isSteady_writeText around (Node.isSteady_of_isTidyText (by simpa [isTidy] using h))
  | .comment content, _, around, h => by
    simp only [isTidy, Lexer.isSteadyComment, Bool.and_eq_true] at h
    simp [toList_writeNode_comment, writtenComment, h.1, isSteady]
  | .element tag contents children, names, around, h => by
    simp only [isTidy, Bool.and_eq_true, Bool.or_eq_true] at h
    obtain ⟨⟨hsteady, -⟩, hcontent⟩ := h
    have hchildren : (writeNodes (around.enter tag) children).toList.all isSteady = true := by
      rcases hcontent with hcontent | hchildren
      · exact all_isSteady_of_isTidyContent hcontent _
      · exact all_isSteady_writeNodes children _ hchildren.2
    have hopen :
        ("<" ++ tag.name ++ Document.writeAttributes tag.attributes ++ ">").toList.all isSteady =
        true := by
      have hwritten : ("<" ++ tag.name ++ Document.writeAttributes tag.attributes ++ ">").toList =
          openTag tag := by simp [openTag]
      rw [hwritten, Lexer.all_isSteady_openTag hsteady]
    have hclose : ("</" ++ tag.name ++ ">").toList.all isSteady = true := by
      have hwritten : ("</" ++ tag.name ++ ">").toList = closeTag tag.name := by simp [closeTag]
      rw [hwritten, Lexer.all_isSteady_closeTag (Lexer.isTagName_name hsteady)]
    rw [writeNode, String.toList_append, String.toList_append, List.all_append, List.all_append,
      hchildren, Bool.and_true, Bool.and_eq_true]
    constructor <;> split
    · rfl
    · exact hopen
    · rfl
    · exact hclose

/-- Siblings are written in steady characters. -/
lemma all_isSteady_writeNodes : ∀ (ns : List Node) {names : List String} {afterText : Bool}
    (around : Surroundings), areTidy names afterText ns = true →
    (writeNodes around ns).toList.all isSteady = true
  | [], _, _, _, _ => rfl
  | n :: ns, _, _, around, h => by
    simp only [areTidy, Bool.and_eq_true] at h
    rw [writeNodes, String.toList_append, List.all_append, all_isSteady_writeNode n around h.1.2,
      all_isSteady_writeNodes ns around h.2]
    rfl

end

end Builder

end Html

end LiterateLinks
