import Mathlib.Data.List.Forall2
import Mathlib.Tactic.Common
import LiterateLinks.Html.Read
import LiterateLinks.Proofs.Html.Arena

/-!
# Reading the content of an element

The state of the tree builder is large, but reading the content of an element changes little of it.
Three relations say so.

* `Builder.Reads`: reading a source in one state comes to reading the rest of it in another.  Chains
  of it (`Builder.Reads.trans`) carry every statement about reading below.
* `Builder.Grows`: nodes have been added to the innermost open element, and the state is the same
  otherwise.
* `Builder.Stands`: which elements are open, with all that the rules ask about the state.  It is
  kept when nodes are added (`Builder.Stands.of_grows`) and when an element is opened
  (`Builder.Stands.push`).

`Builder.Grows.element` closes an element: what was added to it becomes one node of the element
around it.
-/

namespace LiterateLinks

namespace Html

/-- The tag of an element. -/
def SlotKind.tag? : SlotKind → Option Tag
  | .element tag _ => some tag
  | _ => none

namespace Arena

/-- What a slot holds. -/
def kind? (arena : Arena) (i : Nat) : Option SlotKind :=
  arena.slots[i]?.map (·.kind)

/-- The tag of an element is part of what its slot holds. -/
lemma tag?_eq_bind (arena : Arena) (i : Nat) :
    arena.tag? i = (arena.kind? i).bind SlotKind.tag? := by
  unfold tag? kind?
  cases arena.slots[i]? with
  | none => rfl
  | some slot =>
    obtain ⟨kind, parent, children⟩ := slot
    cases kind <;> rfl

/-- Adding nodes does not change what the slots hold. -/
lemma Extends.kind?_eq {arena arena' : Arena} {target : Nat} {ns : List Node}
    (h : Extends arena arena' target ns) {i : Nat} (hi : i < arena.slots.size) :
    arena'.kind? i = arena.kind? i := by
  unfold kind?
  by_cases hne : i = target
  · obtain ⟨added, hslot, -⟩ := h.exists_added
    rw [hne, hslot, Option.map_map]
    rfl
  · rw [h.same i hi hne]

/-- Adding an element does not change what the other slots hold. -/
lemma Opened.kind?_eq {arena arena' : Arena} {target i : Nat} {tag : Tag} {contents : Option Nat}
    (h : Opened arena arena' target tag contents i) {j : Nat} (hj : j < arena.slots.size) :
    arena'.kind? j = arena.kind? j := by
  unfold kind?
  by_cases hne : j = target
  · rw [hne, h.target_eq, Option.map_map]
    rfl
  · rw [h.same j hj hne]

/-- A new slot does not change what the other slots hold. -/
lemma kind?_add (arena : Arena) (kind : SlotKind) {i : Nat} (hi : i < arena.slots.size) :
    (arena.add kind).1.kind? i = arena.kind? i := by
  simp [kind?, add, Array.getElem?_push, Nat.ne_of_lt hi]

/-- A new element does not change what the other slots hold. -/
lemma kind?_addElement (arena : Arena) (tag : Tag) {i : Nat} (hi : i < arena.slots.size) :
    (arena.addElement tag).1.kind? i = arena.kind? i := by
  unfold addElement
  split
  · have hi' : i < (arena.add .root).1.slots.size := by simp [add]; omega
    exact (kind?_add _ _ hi').trans (kind?_add arena .root hi)
  · exact kind?_add arena _ hi

/-- A slot with a tag is there. -/
lemma lt_size_of_tag?_eq_some {arena : Arena} {i : Nat} {tag : Tag} (h : arena.tag? i = some tag) :
    i < arena.slots.size := by
  by_contra hi
  simp [tag?, Array.getElem?_eq_none (Nat.le_of_not_lt hi)] at h

end Arena

namespace Builder

/-! ### Reading on -/

/-- Reading the source in the one state comes to reading the rest of it in the other. -/
def Reads (b : Builder) (source : List Char) (b' : Builder) (rest : List Char) : Prop :=
  ∀ fuel, source.length < fuel →
    ∃ fuel', rest.length < fuel' ∧ b.consume fuel source = b'.consume fuel' rest

/-- Nothing is read. -/
lemma Reads.refl (b : Builder) (source : List Char) : Reads b source b source :=
  fun fuel hfuel => ⟨fuel, hfuel, rfl⟩

/-- One part of a source is read after the other. -/
lemma Reads.trans {b b' b'' : Builder} {source rest rest' : List Char} (h : Reads b source b' rest)
    (h' : Reads b' rest b'' rest') : Reads b source b'' rest' := by
  intro fuel hfuel
  obtain ⟨fuel', hfuel', heq⟩ := h fuel hfuel
  obtain ⟨fuel'', hfuel'', heq'⟩ := h' fuel' hfuel'
  exact ⟨fuel'', hfuel'', heq.trans heq'⟩

/-- A token is read. -/
lemma reads_token {b : Builder} {written rest : List Char} {token : Token}
    (hnext : Lexer.next b.textKind b.isForeign (written ++ rest) = (token, rest))
    (hwritten : written ≠ []) (htoken : token ≠ .eof)
    (hresume : Lexer.resume b.textKind token rest = rest) :
    Reads b (written ++ rest) (b.feed token) rest := by
  intro fuel hfuel
  obtain ⟨fuel, rfl⟩ := Nat.exists_eq_add_one_of_ne_zero (Nat.ne_of_gt (Nat.zero_lt_of_lt hfuel))
  have hlength := List.length_pos_iff.2 hwritten
  rw [List.length_append] at hfuel
  refine ⟨fuel, by omega, ?_⟩
  rw [consume, hnext]
  cases token with
  | eof => exact absurd rfl htoken
  | _ => simp only [hresume]

/-- At the end of the source the page is closed. -/
lemma Reads.consume_eq {b b' : Builder} {source : List Char} (h : Reads b source b' []) {fuel : Nat}
    (hfuel : source.length < fuel) : b.consume fuel source = b'.feed .eof := by
  obtain ⟨fuel', -, heq⟩ := h fuel hfuel
  rw [heq]
  cases fuel' <;> rfl

/-! ### Items -/

/-- A rule that is done with an item has taken it. -/
lemma take_of_step_eq_done {b b' : Builder} {item : Item} (h : b.step item = .done b') :
    b.take item = b' := by
  rw [take, settle, h]

/-- A rule that is not done with an item is followed by another one. -/
lemma take_of_step_eq_again {b b' b'' : Builder} {item : Item} (h : b.step item = .again b')
    (h' : b'.step item = .done b'') : b.take item = b'' := by
  rw [take, settle, h]
  simp only []
  rw [settle, h']

/-- In an element of the page the rules of the mode apply. -/
lemma step_eq_stepMode {b : Builder} (h : b.currentTag.vocabulary = .html) (item : Item) :
    b.step item = b.stepMode item := by
  simp [step, isEmbedded, h]

/-! ### Closing elements -/

/-- Nothing is closed when the innermost element is not as described. -/
lemma popWhile_eq_self {b : Builder} {p : Tag → Bool} (h : p b.currentTag = false) :
    b.popWhile p = b := by
  obtain ⟨arena, mode, returnMode, stack⟩ := b
  cases stack with
  | nil => rfl
  | cons i outer =>
    rw [popWhile, List.dropWhile_cons_of_neg (by simpa [currentTag, current] using h)]

/-- The innermost element is closed by its name. -/
lemma popThrough_eq_pop {b : Builder} {name : String} (h : isHtml b.currentTag name = true) :
    b.popThrough name = b.pop := by
  rw [popThrough, popWhile_eq_self (by simp [h])]

/-! ### Lists of formatting elements -/

/-- The entries are some of the others, in their order, with all boundaries. -/
def Thins (entries others : List Formatting) : Prop :=
  ∃ p : Formatting → Bool, p .marker = true ∧ entries = others.filter p

/-- All entries are kept. -/
lemma Thins.refl (entries : List Formatting) : Thins entries entries :=
  ⟨fun _ => true, rfl, by simp⟩

/-- Entries are removed one after the other. -/
lemma Thins.trans {as bs cs : List Formatting} (h : Thins as bs) (h' : Thins bs cs) :
    Thins as cs := by
  obtain ⟨p, hp, rfl⟩ := h
  obtain ⟨q, hq, rfl⟩ := h'
  exact ⟨fun e => p e && q e, by simp [hp, hq], by rw [List.filter_filter]⟩

/-- Only entries that were there are left. -/
lemma Thins.subset {as bs : List Formatting} (h : Thins as bs) : as ⊆ bs := by
  obtain ⟨p, -, rfl⟩ := h
  exact fun e he => (List.mem_filter.1 he).1

/-- Removing the entry of a node leaves the other entries. -/
lemma thins_removeFormatting (b : Builder) (node : Nat) :
    Thins (b.removeFormatting node).formatting b.formatting :=
  ⟨fun e => !isEntryOf node e, rfl, rfl⟩

/-- A boundary stays where it is. -/
lemma Thins.of_cons_marker {as bs : List Formatting} (h : Thins as (.marker :: bs)) :
    ∃ cs, as = .marker :: cs ∧ Thins cs bs := by
  obtain ⟨p, hp, rfl⟩ := h
  exact ⟨bs.filter p, by rw [List.filter_cons_of_pos hp], p, hp, rfl⟩

/-- The newest entry is kept or removed. -/
lemma Thins.of_cons {as bs : List Formatting} {e : Formatting} (h : Thins as (e :: bs)) :
    ∃ cs, (as = e :: cs ∨ as = cs) ∧ Thins cs bs := by
  obtain ⟨p, hp, rfl⟩ := h
  refine ⟨bs.filter p, ?_, p, hp, rfl⟩
  cases he : p e with
  | true => exact Or.inl (List.filter_cons_of_pos he)
  | false => exact Or.inr (List.filter_cons_of_neg (by simp [he]))

/-! ### States inside an element -/

/-- The state but for the tree, the formatting elements, the mode to go back to after text, and
whether framesets are allowed. -/
def frame (b : Builder) : Builder :=
  { b with arena := {}, formatting := [], returnMode := .initial, framesetOk := true }

/-- In the later state nodes have been added to the innermost open element, and the same elements
are open. -/
structure Grows (b b' : Builder) (ns : List Node) : Prop where
  arena : b.arena.Extends b'.arena b.current ns
  frame : b'.frame = b.frame
  formatting : Thins b'.formatting b.formatting

/-- The elements with these names are open, the innermost one first, and markup is read in them.
All formatting elements to be opened again are still open, and a form is only known while it is
open. -/
structure Stands (b : Builder) (names : List String) : Prop where
  tags : List.Forall₂ (fun i name => ∃ attributes, b.arena.tag? i = some { name, attributes })
    b.stack names
  nodup : b.stack.Nodup
  template : "template" ∉ names
  formatting : ∀ node tag, .element node tag ∈ b.formatting →
    node ∈ b.stack ∧ b.arena.tag? node = some (htmlTag tag)
  form : b.form = none ∨ "form" ∈ names
  fostering : b.fostering = false
  skipLineFeed : b.skipLineFeed = false
  textKind : b.textKind = .markup

/-- Nothing is added. -/
lemma Grows.refl (b : Builder) : Grows b b [] :=
  ⟨.refl _ _, rfl, .refl _⟩

/-- The stack is part of the frame. -/
lemma Grows.stack_eq {b b' : Builder} {ns : List Node} (h : Grows b b' ns) : b'.stack = b.stack :=
  (congrArg Builder.stack h.frame :)

/-- The innermost element stays the same. -/
lemma Grows.current_eq {b b' : Builder} {ns : List Node} (h : Grows b b' ns) :
    b'.current = b.current := by
  rw [current, current, h.stack_eq]

/-- An open element has a name and a tag. -/
lemma exists_tag_of_mem {arena : Arena} {stack : List Nat} {names : List String}
    (h : List.Forall₂ (fun i name => ∃ attributes, arena.tag? i = some { name, attributes })
      stack names) {i : Nat} (hi : i ∈ stack) :
    ∃ name ∈ names, ∃ attributes, arena.tag? i = some { name, attributes } := by
  induction h with
  | nil => simp at hi
  | cons hhead _ ih =>
    rcases List.mem_cons.1 hi with rfl | hi
    · exact ⟨_, List.mem_cons_self, hhead⟩
    · obtain ⟨name, hname, htag⟩ := ih hi
      exact ⟨name, List.mem_cons_of_mem _ hname, htag⟩

namespace Stands

variable {b b' : Builder} {name : String} {names : List String} {ns : List Node}

/-- Open elements have slots. -/
lemma lt_size (h : Stands b names) {i : Nat} (hi : i ∈ b.stack) : i < b.arena.slots.size := by
  obtain ⟨name, -, attributes, htag⟩ := exists_tag_of_mem h.tags hi
  exact Arena.lt_size_of_tag?_eq_some htag

/-- The innermost open element. -/
lemma exists_stack_eq (h : Stands b (name :: names)) :
    ∃ outer attributes, b.stack = b.current :: outer ∧
      b.arena.tag? b.current = some { name, attributes } := by
  obtain ⟨i, outer, ⟨attributes, htag⟩, -, hstack⟩ := List.forall₂_cons_right_iff.1 h.tags
  have hcurrent : b.current = i := by rw [current, hstack]; rfl
  exact ⟨outer, attributes, by rw [hcurrent, hstack], by rw [hcurrent, htag]⟩

/-- The innermost open element has a slot. -/
lemma current_lt_size (h : Stands b (name :: names)) : b.current < b.arena.slots.size := by
  obtain ⟨outer, attributes, -, htag⟩ := h.exists_stack_eq
  exact Arena.lt_size_of_tag?_eq_some htag

/-- The tag of the innermost open element. -/
lemma exists_currentTag_eq (h : Stands b (name :: names)) :
    ∃ attributes, b.currentTag = { name, attributes } := by
  obtain ⟨outer, attributes, -, htag⟩ := h.exists_stack_eq
  exact ⟨attributes, by rw [currentTag, tag, htag]; rfl⟩

/-- The rules of the mode apply. -/
lemma step_eq (h : Stands b names) (item : Item) : b.step item = b.stepMode item := by
  cases names with
  | nil =>
    have hstack : b.stack = [] := List.forall₂_nil_right_iff.1 h.tags
    simp [step, hstack]
  | cons name names =>
    obtain ⟨attributes, htag⟩ := h.exists_currentTag_eq
    exact step_eq_stepMode (by rw [htag]) item

/-- A tag or a comment is taken as it is. -/
lemma feed_eq (h : Stands b names) :
    (∀ tag, b.feed (.startTag tag) = b.take (.startTag tag)) ∧
      (∀ name, b.feed (.endTag name) = b.take (.endTag name)) ∧
      ∀ content, b.feed (.comment content) = b.take (.comment content) := by
  have hb : { b with skipLineFeed := false } = b := by rw [← h.skipLineFeed]
  refine ⟨fun tag => ?_, fun name => ?_, fun content => ?_⟩ <;> simp only [feed, hb]

/-- Nodes are put after the last child of the innermost open element. -/
lemma placeIn_eq (h : Stands b (name :: names)) : b.placeIn b.current = .last b.current := by
  obtain ⟨attributes, htag⟩ := h.exists_currentTag_eq
  have hname : name ≠ "template" := fun heq => h.template (heq ▸ List.mem_cons_self)
  rw [currentTag] at htag
  simp [placeIn, htag, h.fostering, isHtml, hname]

/-- The same elements are open while their tags stay. -/
lemma tags_of_kind?_eq (h : Stands b names) {arena : Arena}
    (hkind : ∀ i, i < b.arena.slots.size → arena.kind? i = b.arena.kind? i) :
    List.Forall₂ (fun i name => ∃ attributes, arena.tag? i = some { name, attributes })
      b.stack names := by
  have hsame : ∀ i ∈ b.stack, arena.tag? i = b.arena.tag? i := by
    intro i hi
    rw [Arena.tag?_eq_bind, Arena.tag?_eq_bind, hkind i (h.lt_size hi)]
  refine ((List.forall₂_and_left b.stack names).2 ⟨hsame, h.tags⟩).imp ?_
  rintro i name ⟨heq, htag⟩
  rwa [heq]

/-- The same elements are open in a state with the same frame and the same tags. -/
lemma congr (h : Stands b names) (hframe : b'.frame = b.frame)
    (hkind : ∀ i, i < b.arena.slots.size → b'.arena.kind? i = b.arena.kind? i)
    (hformatting :
      ∀ node tag, .element node tag ∈ b'.formatting → .element node tag ∈ b.formatting) :
    Stands b' names where
  tags := (congrArg Builder.stack hframe :) ▸ h.tags_of_kind?_eq hkind
  nodup := (congrArg Builder.stack hframe :) ▸ h.nodup
  template := h.template
  formatting node tag hmem := by
    obtain ⟨hnode, htag⟩ := h.formatting node tag (hformatting node tag hmem)
    refine ⟨(congrArg Builder.stack hframe :) ▸ hnode, ?_⟩
    rw [Arena.tag?_eq_bind, hkind node (h.lt_size hnode), ← Arena.tag?_eq_bind, htag]
  form := (congrArg Builder.form hframe :) ▸ h.form
  fostering := (congrArg Builder.fostering hframe :).trans h.fostering
  skipLineFeed := (congrArg Builder.skipLineFeed hframe :).trans h.skipLineFeed
  textKind := (congrArg Builder.textKind hframe :).trans h.textKind

/-- The same elements are open after nodes have been added. -/
lemma of_grows (h : Stands b names) (hgrows : Grows b b' ns) : Stands b' names :=
  h.congr hgrows.frame (fun _ hi => hgrows.arena.kind?_eq hi)
    fun _ _ hmem => hgrows.formatting.subset hmem

end Stands

/-- Nodes are added one after the other. -/
lemma Grows.trans {b b' b'' : Builder} {ms ns : List Node} (h : Grows b b' ms)
    (h' : Grows b' b'' ns)
    (hcurrent : b.current < b.arena.slots.size) : Grows b b'' (ms ++ ns) where
  arena := h.arena.trans (h.current_eq ▸ h'.arena) hcurrent
  frame := h'.frame.trans h.frame
  formatting := h'.formatting.trans h.formatting

/-- The node that has been added is the last one. -/
lemma Grows.endsInText_eq {b b' : Builder} {n : Node} (h : Grows b b' [n])
    (hcurrent : b.current < b.arena.slots.size) :
    b'.arena.endsInText b'.current = n.isText := by
  rw [h.current_eq]
  exact Arena.Extends.endsInText_eq (List.nil_append [n] ▸ h.arena) hcurrent

/-- An element is added with the nodes that have been added to it while it was open. -/
lemma Grows.element {b opened inner closed : Builder} {tag : Tag} {ns : List Node}
    (hopened : b.arena.Opened opened.arena b.current tag none opened.current)
    (hcurrent : b.current < b.arena.slots.size) (hinner : Grows opened inner ns)
    (harena : closed.arena = inner.arena) (hframe : closed.frame = b.frame)
    (hformatting : Thins closed.formatting b.formatting) :
    Grows b closed [.element tag none ns] where
  arena := by rw [harena]; exact hopened.extends_element hinner.arena hcurrent
  frame := hframe
  formatting := hformatting

/-! ### Inserting nodes -/

/-- An element that has just been opened is the innermost one. -/
lemma currentTag_eq_of_opened {arena : Arena} {opened : Builder} {target i : Nat} {tag : Tag}
    {contents : Option Nat} (h : arena.Opened opened.arena target tag contents i) {outer : List Nat}
    (hstack : opened.stack = i :: outer) : opened.currentTag = tag := by
  rw [currentTag, current, hstack, List.headD_cons, Builder.tag, Arena.tag?, h.slot_eq]
  rfl

namespace Stands

variable {b b' : Builder} {name : String} {names : List String} {ns : List Node}

/-- A new element is put after the last child of the innermost open element. -/
lemma insertNode_createElement (h : Stands b (name :: names)) (tag : Tag) :
    (b.createElement tag).1.insertNode (b.createElement tag).2 =
      { b with
        arena :=
          (b.arena.addElement tag).1.insert (.last b.current) (b.arena.addElement tag).2 } := by
  have hcreated : Stands (b.createElement tag).1 (name :: names) :=
    h.congr rfl (fun i hi => Arena.kind?_addElement b.arena tag hi) fun _ _ hmem => hmem
  rw [insertNode, hcreated.placeIn_eq]
  rfl

/-- An element is inserted and opened. -/
lemma exists_insertOpen_eq (h : Stands b (name :: names)) {tag : Tag}
    (htag : Arena.isTemplate tag = false) :
    ∃ arena i, b.insertOpen tag = { b with arena, stack := i :: b.stack } ∧
      b.arena.Opened arena b.current tag none i := by
  refine ⟨_, _, ?_, Arena.opened_of_not_isTemplate b.arena h.current_lt_size htag⟩
  have hinsert := h.insertNode_createElement tag
  simp only [insertOpen, hinsert, push]
  rfl

/-- An element is inserted without being opened. -/
lemma grows_insertClosed (h : Stands b (name :: names)) {tag : Tag}
    (htag : Arena.isTemplate tag = false) :
    Grows b (b.insertClosed tag) [.element tag none []] := by
  have hinsert := h.insertNode_createElement tag
  have hopened := Arena.opened_of_not_isTemplate b.arena h.current_lt_size htag
  have hclosed : b.insertClosed tag =
      (b.createElement tag).1.insertNode (b.createElement tag).2 := rfl
  rw [hclosed, hinsert]
  exact ⟨hopened.extends_element (.refl _ _) h.current_lt_size, rfl, .refl _⟩

/-- A comment is inserted. -/
lemma grows_insertComment (h : Stands b (name :: names)) (content : String) :
    Grows b (b.insertComment content) [.comment content] := by
  rw [insertComment, h.placeIn_eq]
  exact ⟨Arena.extends_insert_add b.arena h.current_lt_size fun _ _ _ hi hslot => ⟨hi, _, hslot⟩,
    rfl, .refl _⟩

/-- One more element is open. -/
lemma push (h : Stands b names) {opened : Builder} {target i : Nat} {tag : Tag}
    {contents : Option Nat} (hopened : b.arena.Opened opened.arena target tag contents i)
    (htag : tag.vocabulary = .html) (hname : tag.name ≠ "template")
    (hstack : opened.stack = i :: b.stack)
    (hformatting : ∀ node t, .element node t ∈ opened.formatting →
      .element node t ∈ b.formatting ∨ node = i ∧ htmlTag t = tag)
    (hform : opened.form = b.form ∨ tag.name = "form") (hfostering : opened.fostering = false)
    (hskip : opened.skipLineFeed = false) (hkind : opened.textKind = .markup) :
    Stands opened (tag.name :: names) where
  tags := by
    rw [hstack]
    refine .cons ⟨tag.attributes, ?_⟩ (h.tags_of_kind?_eq fun j hj => hopened.kind?_eq hj)
    obtain ⟨tagName, attributes, vocabulary⟩ := tag
    obtain rfl : vocabulary = .html := htag
    simp [Arena.tag?, hopened.slot_eq]
  nodup := by
    rw [hstack]
    refine List.nodup_cons.2 ⟨fun hi => ?_, h.nodup⟩
    exact absurd (h.lt_size hi) (Nat.not_lt.2 hopened.size_le)
  template := by
    rintro hmem
    rcases List.mem_cons.1 hmem with heq | hmem
    · exact hname heq.symm
    · exact h.template hmem
  formatting node t hmem := by
    rw [hstack]
    rcases hformatting node t hmem with hold | ⟨rfl, ht⟩
    · obtain ⟨hnode, htag'⟩ := h.formatting node t hold
      refine ⟨List.mem_cons_of_mem _ hnode, ?_⟩
      rw [Arena.tag?_eq_bind, hopened.kind?_eq (h.lt_size hnode), ← Arena.tag?_eq_bind, htag']
    · exact ⟨List.mem_cons_self, by simp [Arena.tag?, hopened.slot_eq, ht]⟩
  form := by
    rcases hform with hform | hform
    · rw [hform]
      exact h.form.imp_right (List.mem_cons_of_mem _)
    · exact Or.inr (hform ▸ List.mem_cons_self)
  fostering := hfostering
  skipLineFeed := hskip
  textKind := hkind

end Stands

/-! ### Text -/

/-- Each of the characters is put at the end of the innermost element, and nothing else changes. -/
def InsertsEach (b : Builder) (text : List Char) : Prop :=
  ∀ (arena : Arena) (ok : Bool), (∀ i, i < b.arena.slots.size → arena.kind? i = b.arena.kind? i) →
    ∀ c ∈ text, ∃ ok', { b with arena, framesetOk := ok }.take (.char c) =
      { b with arena := arena.insertChar (.last b.current) c, framesetOk := ok' }

/-- Characters are added to a text. -/
lemma exists_foldl_take_eq {b : Builder} (hcurrent : b.current < b.arena.slots.size) :
    ∀ {text : List Char}, b.InsertsEach text → ∀ {content : String} {arena : Arena} (ok : Bool),
      b.arena.Extends arena b.current [.text content] →
      ∃ arena' ok', text.foldl (fun b c => b.take (.char c)) { b with arena, framesetOk := ok } =
          { b with arena := arena', framesetOk := ok' } ∧
        b.arena.Extends arena' b.current [.text (content ++ String.ofList text)]
  | [], _, content, arena, ok, hextends => ⟨arena, ok, rfl, by simpa using hextends⟩
  | c :: cs, htext, content, arena, ok, hextends => by
    obtain ⟨ok', htake⟩ := htext arena ok (fun _ hi => hextends.kind?_eq hi) c (by simp)
    have hpushed := hextends.insertChar hcurrent c
    obtain ⟨arena', ok'', hfold, hextends'⟩ := exists_foldl_take_eq hcurrent
      (fun arena ok hkind d hd => htext arena ok hkind d (List.mem_cons_of_mem c hd)) ok' hpushed
    refine ⟨arena', ok'', by rw [List.foldl_cons, htake, hfold], ?_⟩
    have hcontent : content ++ String.ofList (c :: cs) = content.push c ++ String.ofList cs := by
      apply String.toList_injective
      simp
    rw [hcontent]
    exact hextends'

/-- A text is added to the innermost element if its last child is no text. -/
lemma exists_text_eq {b : Builder} (hcurrent : b.current < b.arena.slots.size)
    (hlast : b.arena.endsInText b.current = false) {text : List Char} (hne : text ≠ [])
    (htext : b.InsertsEach text) :
    ∃ arena ok, text.foldl (fun b c => b.take (.char c)) b = { b with arena, framesetOk := ok } ∧
      b.arena.Extends arena b.current [.text (String.ofList text)] := by
  obtain ⟨c, cs, rfl⟩ := List.exists_cons_of_ne_nil hne
  obtain ⟨ok, htake⟩ := htext b.arena b.framesetOk (fun _ _ => rfl) c (by simp)
  obtain ⟨arena', ok', hfold, hextends⟩ := exists_foldl_take_eq hcurrent
    (fun arena ok hkind d hd => htext arena ok hkind d (List.mem_cons_of_mem c hd)) ok
    (Arena.extends_insertChar b.arena hcurrent hlast c)
  have hcontent : String.singleton c ++ String.ofList cs = String.ofList (c :: cs) := by
    apply String.toList_injective
    simp
  exact ⟨arena', ok', by rw [List.foldl_cons, htake, hfold], hcontent ▸ hextends⟩

/-- A text without a line feed in front. -/
def dropLineFeed : List Char → List Char
  | '\n' :: text => text
  | text => text

/-- The characters of a text are taken one by one, without the line feed that may be left out. -/
lemma feed_text (b : Builder) (text : List Char) :
    b.feed (.text text) =
      (if b.skipLineFeed then dropLineFeed text else text).foldl (fun b c => b.take (.char c))
        { b with skipLineFeed := false } := by
  have hdrop : (if b.skipLineFeed && !false && text.head? == some '\n' then text.tail else text) =
      if b.skipLineFeed then dropLineFeed text else text := by
    cases b.skipLineFeed with
    | false => rfl
    | true =>
      cases text with
      | nil => rfl
      | cons c cs =>
        by_cases hc : c = '\n'
        · subst hc
          rfl
        · simp [dropLineFeed, hc]
  rw [← hdrop]
  rfl

end Builder

end Html

end LiterateLinks
