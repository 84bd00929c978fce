import Mathlib.Tactic.Common
import LiterateLinks.Html.Arena

/-!
# Adding nodes to a tree under construction

A page that is well nested is read in document order: every node is added after the last child of
the element it stands in, and what was added before is not touched again.  This file says what that
does to a tree under construction.

`Arena.Shows` relates a slot to the node that is read off it.  `Arena.Extends` relates an arena to a
later one in which some nodes have been added below one slot and everything else is as before; it is
composed along siblings (`Arena.Extends.trans`) and along the nesting of elements
(`Arena.Opened.extends_element`).  At the end the document is read off the arena:
`Arena.Extends.toDocument_eq`.
-/

namespace LiterateLinks

/-- Whether the node is text. -/
def Node.isText : Node → Bool
  | .text _ => true
  | _ => false

namespace Html

namespace Arena

/-! ### Nodes in an arena -/

mutual

/-- The slot shows the node.  Only slots from `low` on are used, and those of the nodes below it
come after its own. -/
def Shows (arena : Arena) : Node → Nat → Nat → Prop
  | .doctype name, low, i => low ≤ i ∧ ∃ p, arena.slots[i]? = some ⟨.doctype name, p, #[]⟩
  | .comment content, low, i => low ≤ i ∧ ∃ p, arena.slots[i]? = some ⟨.comment content, p, #[]⟩
  | .text content, low, i => low ≤ i ∧ ∃ p, arena.slots[i]? = some ⟨.text content, p, #[]⟩
  | .element tag contents children, low, i =>
    low ≤ i ∧ ∃ p c slots, arena.slots[i]? = some ⟨.element tag c, p, slots⟩ ∧
      ShowsContents arena contents low i c ∧ ShowsAll arena children (i + 1) slots.toList

/-- The slot of the template contents of the element in slot `i` shows them. -/
def ShowsContents (arena : Arena) : Option (List Node) → Nat → Nat → Option Nat → Prop
  | none, _, _, c => c = none
  | some nodes, low, i, c => ∃ j p slots, c = some j ∧ low ≤ j ∧
      arena.slots[j]? = some ⟨.root, p, slots⟩ ∧ ShowsAll arena nodes (i + 1) slots.toList

/-- The slots show the nodes, one by one. -/
def ShowsAll (arena : Arena) : List Node → Nat → List Nat → Prop
  | [], _, slots => slots = []
  | n :: ns, low, slots => ∃ i is, slots = i :: is ∧ Shows arena n low i ∧ ShowsAll arena ns low is

end

mutual

/-- A node is shown by every arena that agrees on the slots it uses. -/
lemma Shows.congr {arena arena' : Arena} : ∀ {n : Node} {low low' i : Nat},
    Shows arena n low i → low' ≤ low →
    (∀ j slot, low ≤ j → arena.slots[j]? = some slot → arena'.slots[j]? = some slot) →
    Shows arena' n low' i
  | .doctype _, _, _, _, ⟨hi, p, hslot⟩, hlow, hsame =>
    ⟨Nat.le_trans hlow hi, p, hsame _ _ hi hslot⟩
  | .comment _, _, _, _, ⟨hi, p, hslot⟩, hlow, hsame =>
    ⟨Nat.le_trans hlow hi, p, hsame _ _ hi hslot⟩
  | .text _, _, _, _, ⟨hi, p, hslot⟩, hlow, hsame => ⟨Nat.le_trans hlow hi, p, hsame _ _ hi hslot⟩
  | .element _ _ _, _, _, _, ⟨hi, p, c, slots, hslot, hcontents, hchildren⟩, hlow, hsame =>
    ⟨Nat.le_trans hlow hi, p, c, slots, hsame _ _ hi hslot, hcontents.congr hi hlow hsame,
      hchildren.congr (Nat.le_refl _) fun j slot hj => hsame j slot (by omega)⟩

/-- Template contents are shown by every arena that agrees on the slots they use. -/
lemma ShowsContents.congr {arena arena' : Arena} : ∀ {contents : Option (List Node)}
    {low low' i : Nat} {c : Option Nat}, ShowsContents arena contents low i c → low ≤ i →
    low' ≤ low →
    (∀ j slot, low ≤ j → arena.slots[j]? = some slot → arena'.slots[j]? = some slot) →
    ShowsContents arena' contents low' i c
  | none, _, _, _, _, h, _, _, _ => h
  | some _, _, _, _, _, ⟨j, p, slots, hc, hj, hslot, hnodes⟩, hi, hlow, hsame =>
    ⟨j, p, slots, hc, Nat.le_trans hlow hj, hsame _ _ hj hslot,
      hnodes.congr (Nat.le_refl _) fun k slot hk => hsame k slot (by omega)⟩

/-- Nodes are shown by every arena that agrees on the slots they use. -/
lemma ShowsAll.congr {arena arena' : Arena} :
    ∀ {ns : List Node} {low low' : Nat} {slots : List Nat},
    ShowsAll arena ns low slots → low' ≤ low →
    (∀ j slot, low ≤ j → arena.slots[j]? = some slot → arena'.slots[j]? = some slot) →
    ShowsAll arena' ns low' slots
  | [], _, _, _, h, _, _ => h
  | _ :: _, _, _, _, ⟨i, is, hslots, hn, hns⟩, hlow, hsame =>
    ⟨i, is, hslots, hn.congr hlow hsame, hns.congr hlow hsame⟩

end

/-- Siblings are shown one after the other. -/
lemma ShowsAll.append {arena : Arena} : ∀ {ms ns : List Node} {low : Nat} {is js : List Nat},
    ShowsAll arena ms low is → ShowsAll arena ns low js → ShowsAll arena (ms ++ ns) low (is ++ js)
  | [], _, _, _, _, h, hns => by
    obtain rfl : _ = [] := h
    exact hns
  | _ :: _, _, _, _, _, ⟨i, is, hslots, hm, hms⟩, hns => by
    subst hslots
    exact ⟨i, is ++ _, rfl, hm, hms.append hns⟩

/-! ### Reading nodes off an arena -/

/-- The node that is read off a slot. -/
def node? (arena : Arena) (fuel : Nat) (i : Nat) : Option Node :=
  match arena.slots[i]? with
  | none => none
  | some slot =>
    match slot.kind with
    | .root => none
    | .doctype name => some (.doctype name)
    | .comment content => some (.comment content)
    | .text content => some (.text content)
    | .element tag contents =>
      some (.element tag (contents.map fun c => arena.nodes fuel (arena.children c).toList)
        (arena.nodes fuel slot.children.toList))

/-- Nodes are read off their slots one by one. -/
lemma nodes_succ (arena : Arena) (fuel : Nat) (slots : List Nat) :
    arena.nodes (fuel + 1) slots = slots.filterMap (arena.node? fuel) := rfl

/-- A slot that shows a node is there. -/
lemma Shows.lt_size {arena : Arena} {n : Node} {low i : Nat} (h : Shows arena n low i) :
    low ≤ i ∧ i < arena.slots.size := by
  cases n with
  | element tag contents children =>
    obtain ⟨hi, p, c, slots, hslot, -⟩ := h
    exact ⟨hi, (Array.getElem?_eq_some_iff.1 hslot).1⟩
  | doctype _ | comment _ | text _ =>
    obtain ⟨hi, p, hslot⟩ := h
    exact ⟨hi, (Array.getElem?_eq_some_iff.1 hslot).1⟩

mutual

/-- A node is read off the slot that shows it, if the fuel covers the slots after it. -/
lemma Shows.node?_eq {arena : Arena} : ∀ {n : Node} {low i fuel : Nat},
    Shows arena n low i → arena.slots.size ≤ i + 1 + fuel → arena.node? fuel i = some n
  | .doctype _, _, _, _, ⟨_, p, hslot⟩, _ => by simp [node?, hslot]
  | .comment _, _, _, _, ⟨_, p, hslot⟩, _ => by simp [node?, hslot]
  | .text _, _, _, _, ⟨_, p, hslot⟩, _ => by simp [node?, hslot]
  | .element _ none _, _, _, _, ⟨_, p, c, slots, hslot, hcontents, hchildren⟩, hfuel => by
    obtain rfl : c = none := hcontents
    simp [node?, hslot, hchildren.nodes_eq hfuel]
  | .element _ (some _) _, _, _, _, ⟨_, p, c, slots, hslot, hcontents, hchildren⟩, hfuel => by
    obtain ⟨j, q, cslots, rfl, -, hroot, hnodes⟩ := hcontents
    simp [node?, hslot, hchildren.nodes_eq hfuel, children, hroot, hnodes.nodes_eq hfuel]

/-- Nodes are read off the slots that show them, if the fuel covers the slots from `low` on. -/
lemma ShowsAll.nodes_eq {arena : Arena} : ∀ {ns : List Node} {low fuel : Nat} {slots : List Nat},
    ShowsAll arena ns low slots → arena.slots.size ≤ low + fuel → arena.nodes fuel slots = ns
  | [], _, fuel, _, h, _ => by
    obtain rfl : _ = [] := h
    cases fuel <;> rfl
  | n :: ns, low, fuel, _, ⟨i, is, hslots, hn, hns⟩, hfuel => by
    subst hslots
    have hi := hn.lt_size
    obtain ⟨fuel, rfl⟩ : ∃ k, fuel = k + 1 := ⟨fuel - 1, by omega⟩
    have hrest := hns.nodes_eq hfuel
    rw [nodes_succ] at hrest ⊢
    rw [List.filterMap_cons_some (hn.node?_eq (by omega)), hrest]

end

/-! ### Adding nodes below a slot -/

/-- The later arena has the given nodes after the last child of the target, and nothing else in the
slots of the earlier one has changed. -/
structure Extends (arena arena' : Arena) (target : Nat) (ns : List Node) : Prop where
  size_le : arena.slots.size ≤ arena'.slots.size
  same : ∀ i, i < arena.slots.size → i ≠ target → arena'.slots[i]? = arena.slots[i]?
  exists_added : ∃ added : List Nat,
    arena'.slots[target]? = arena.slots[target]?.map
      (fun s => { s with children := s.children ++ added.toArray }) ∧
    ShowsAll arena' ns arena.slots.size added

/-- An arena extends itself by no nodes. -/
lemma Extends.refl (arena : Arena) (target : Nat) : Extends arena arena target [] where
  size_le := Nat.le_refl _
  same _ _ _ := rfl
  exists_added := ⟨[], by simp, rfl⟩

/-- Nodes are added one after the other. -/
lemma Extends.trans {a b c : Arena} {target : Nat} {ms ns : List Node} (hab : Extends a b target ms)
    (hbc : Extends b c target ns) (htarget : target < a.slots.size) :
    Extends a c target (ms ++ ns) where
  size_le := Nat.le_trans hab.size_le hbc.size_le
  same i hi hne := (hbc.same i (Nat.lt_of_lt_of_le hi hab.size_le) hne).trans (hab.same i hi hne)
  exists_added := by
    obtain ⟨is, hb, hms⟩ := hab.exists_added
    obtain ⟨js, hc, hns⟩ := hbc.exists_added
    refine ⟨is ++ js, ?_, ?_⟩
    · rw [hc, hb, Option.map_map]
      congr 1
      funext s
      simp
    · refine ShowsAll.append (hms.congr (Nat.le_refl _) fun j slot hj hslot => ?_)
        (hns.congr hab.size_le fun _ _ _ hslot => hslot)
      have hjb : j < b.slots.size := (Array.getElem?_eq_some_iff.1 hslot).1
      rw [hbc.same j hjb (by omega), hslot]

/-- Putting a node after the last child of another one changes these two slots only. -/
lemma getElem?_insert_last (arena : Arena) {parent node : Nat} (hne : parent ≠ node) (j : Nat) :
    (arena.insert (.last parent) node).slots[j]? =
      if j = node then arena.slots[j]?.map fun s => { s with parent := some parent }
      else if j = parent then
        arena.slots[j]?.map fun s => { s with children := s.children.push node }
      else arena.slots[j]? := by
  simp only [insert, modify, Array.getElem?_modify]
  by_cases hnode : j = node
  · subst hnode
    simp [hne]
  · by_cases hparent : j = parent
    · subst hparent
      simp [hnode, Ne.symm hnode]
    · simp [hnode, hparent, Ne.symm hnode, Ne.symm hparent]

/-- A new node is put after the last child of another one. -/
lemma getElem?_insert_add (arena : Arena) {target : Nat} (htarget : target < arena.slots.size)
    (kind : SlotKind) (j : Nat) :
    ((arena.add kind).1.insert (.last target) (arena.add kind).2).slots[j]? =
      if j = arena.slots.size then some ⟨kind, some target, #[]⟩
      else if j = target then
        arena.slots[j]?.map fun s => { s with children := s.children.push arena.slots.size }
      else arena.slots[j]? := by
  have hne : target ≠ arena.slots.size := Nat.ne_of_lt htarget
  rw [add, getElem?_insert_last _ hne, Array.getElem?_push]
  by_cases hnew : j = arena.slots.size
  · simp [hnew]
  · simp [hnew]

/-- A new node takes one slot. -/
lemma size_insert_add (arena : Arena) (target : Nat) (kind : SlotKind) :
    ((arena.add kind).1.insert (.last target) (arena.add kind).2).slots.size =
      arena.slots.size + 1 := by
  simp [insert, modify, add]

/-- The later arena has a new element without children after the last child of the target. -/
structure Opened (arena arena' : Arena) (target : Nat) (tag : Tag) (contents : Option Nat)
    (i : Nat) : Prop where
  size_le : arena.slots.size ≤ i
  size_eq : arena'.slots.size = i + 1
  same : ∀ j, j < arena.slots.size → j ≠ target → arena'.slots[j]? = arena.slots[j]?
  target_eq : arena'.slots[target]? =
    arena.slots[target]?.map fun s => { s with children := s.children.push i }
  slot_eq : arena'.slots[i]? = some ⟨.element tag contents, some target, #[]⟩
  contents_eq : ∀ j, contents = some j →
    arena.slots.size ≤ j ∧ arena'.slots[j]? = some ⟨.root, none, #[]⟩

/-- Slots stay when an element is added. -/
lemma Opened.lt_size {arena arena' : Arena} {target i : Nat} {tag : Tag} {contents : Option Nat}
    (h : Opened arena arena' target tag contents i) {j : Nat} (hj : j < arena.slots.size) :
    j < arena'.slots.size := by
  have hle := h.size_le
  rw [h.size_eq]
  omega

/-- Whether elements with this tag have template contents. -/
def isTemplate (tag : Tag) : Bool :=
  tag.vocabulary = .html && tag.name = "template"

/-- An element is put after the last child of the target. -/
lemma opened_of_not_isTemplate (arena : Arena) {target : Nat} (htarget : target < arena.slots.size)
    {tag : Tag} (htag : isTemplate tag = false) :
    Opened arena ((arena.addElement tag).1.insert (.last target) (arena.addElement tag).2) target
      tag none (arena.addElement tag).2 := by
  have hadd : arena.addElement tag = arena.add (.element tag none) := by
    rw [isTemplate] at htag
    simp only [addElement, htag, Bool.false_eq_true, if_false]
  rw [hadd]
  have hlookup := getElem?_insert_add arena htarget (.element tag none)
  constructor
  case size_le => exact Nat.le_refl _
  case size_eq => exact size_insert_add arena target _
  case same =>
    intro j hj hne
    rw [hlookup, if_neg (Nat.ne_of_lt hj), if_neg hne]
  case target_eq => rw [hlookup, if_neg (Nat.ne_of_lt htarget), if_pos rfl]; rfl
  case slot_eq => rw [hlookup]; exact if_pos rfl
  case contents_eq => simp

/-- A template is put after the last child of the target. -/
lemma opened_of_isTemplate (arena : Arena) {target : Nat} (htarget : target < arena.slots.size)
    {tag : Tag} (htag : isTemplate tag = true) :
    Opened arena ((arena.addElement tag).1.insert (.last target) (arena.addElement tag).2) target
      tag (some arena.slots.size) (arena.addElement tag).2 := by
  have hadd : arena.addElement tag =
      (arena.add .root).1.add (.element tag (some arena.slots.size)) := by
    rw [isTemplate] at htag
    simp only [addElement, htag, if_true]
    rfl
  have hsize : (arena.add .root).1.slots.size = arena.slots.size + 1 := by simp [add]
  have hbase : ∀ j, (arena.add .root).1.slots[j]? =
      if j = arena.slots.size then some ⟨.root, none, #[]⟩ else arena.slots[j]? :=
    fun j => Array.getElem?_push
  have htarget' : target < (arena.add .root).1.slots.size := by omega
  have hlookup := getElem?_insert_add (arena.add .root).1 htarget'
    (.element tag (some arena.slots.size))
  rw [hadd]
  constructor
  case size_le => simp [add]
  case size_eq => exact size_insert_add (arena.add .root).1 target _
  case same =>
    intro j hj hne
    rw [hlookup, if_neg (by omega), if_neg hne, hbase, if_neg (by omega)]
  case target_eq =>
    rw [hlookup, if_neg (by omega), if_pos rfl, hbase, if_neg (by omega)]
    rfl
  case slot_eq => rw [hlookup]; exact if_pos rfl
  case contents_eq =>
    rintro j ⟨rfl⟩
    refine ⟨Nat.le_refl _, ?_⟩
    rw [hlookup, if_neg (by omega), if_neg (by omega), hbase, if_pos rfl]

namespace Opened

variable {arena arena' : Arena} {target i : Nat} {tag : Tag}

/-- An element and the nodes read below it are added after the last child of the target. -/
lemma extends_element (h : Opened arena arena' target tag none i) {arena'' : Arena} {ns : List Node}
    (hns : Extends arena' arena'' i ns) (htarget : target < arena.slots.size) :
    Extends arena arena'' target [.element tag none ns] where
  size_le := by have := h.size_le; have := h.size_eq; have := hns.size_le; omega
  same j hj hne := by
    have := h.size_le
    have := h.size_eq
    rw [hns.same j (by omega) (by omega), h.same j hj hne]
  exists_added := by
    have hi := h.size_le
    have hsize := h.size_eq
    refine ⟨[i], ?_, ?_⟩
    · rw [hns.same target (by omega) (by omega), h.target_eq]
      simp
    · obtain ⟨added, hslot, hshows⟩ := hns.exists_added
      rw [h.slot_eq] at hslot
      refine ⟨i, [], rfl, ⟨hi, some target, none, added.toArray, ?_, rfl, ?_⟩, rfl⟩
      · simpa using hslot
      · rwa [hsize] at hshows

/-- A template is added with no contents. -/
lemma extends_template {contents : Nat} (h : Opened arena arena' target tag (some contents) i) :
    Extends arena arena' target [.element tag (some []) []] where
  size_le := by have := h.size_le; have := h.size_eq; omega
  same := h.same
  exists_added := by
    refine ⟨[i], by rw [h.target_eq]; simp, ?_⟩
    obtain ⟨hcontents, hroot⟩ := h.contents_eq contents rfl
    exact ⟨i, [], rfl, ⟨h.size_le, some target, some contents, #[], h.slot_eq,
      ⟨contents, none, #[], rfl, hcontents, hroot, rfl⟩, rfl⟩, rfl⟩

end Opened

/-- A node without children is put after the last child of the target. -/
lemma extends_insert_add (arena : Arena) {target : Nat} (htarget : target < arena.slots.size)
    {kind : SlotKind} {n : Node}
    (hn : ∀ (arena' : Arena) (low i : Nat), low ≤ i →
      arena'.slots[i]? = some ⟨kind, some target, #[]⟩ → Shows arena' n low i) :
    Extends arena ((arena.add kind).1.insert (.last target) (arena.add kind).2) target [n] where
  size_le := by rw [size_insert_add]; omega
  same j hj hne := by
    rw [getElem?_insert_add arena htarget, if_neg (Nat.ne_of_lt hj), if_neg hne]
  exists_added := by
    refine ⟨[arena.slots.size], ?_, arena.slots.size, [], rfl, hn _ _ _ (Nat.le_refl _) ?_, rfl⟩
    · rw [getElem?_insert_add arena htarget, if_neg (Nat.ne_of_lt htarget), if_pos rfl]
      simp
    · rw [getElem?_insert_add arena htarget, if_pos rfl]

/-! ### Text -/

/-- Whether the last child of a node is text. -/
def endsInText (arena : Arena) (target : Nat) : Bool :=
  (arena.children target).back?.any arena.isText

/-- A new element has no text in it. -/
lemma Opened.endsInText_eq {arena arena' : Arena} {target i : Nat} {tag : Tag}
    {contents : Option Nat}
    (h : Opened arena arena' target tag contents i) : arena'.endsInText i = false := by
  simp [endsInText, children, h.slot_eq]

/-- The first character of a text becomes a node. -/
lemma extends_insertChar (arena : Arena) {target : Nat} (htarget : target < arena.slots.size)
    (hlast : endsInText arena target = false) (c : Char) :
    Extends arena (arena.insertChar (.last target) c) target [.text (String.singleton c)] := by
  have hinsert : arena.insertChar (.last target) c =
      (arena.add (.text (String.singleton c))).1.insert (.last target)
        (arena.add (.text (String.singleton c))).2 := by
    unfold insertChar
    rw [preceding?]
    unfold endsInText at hlast
    cases hback : (arena.children target).back? with
    | none => rfl
    | some i =>
      have hi : arena.isText i = false := by simpa [hback] using hlast
      simp [hi, insertChar.addText]
  rw [hinsert]
  exact extends_insert_add arena htarget fun _ _ _ hi hslot => ⟨hi, _, hslot⟩

/-- The other characters of a text are added to the node. -/
lemma Extends.insertChar {arena arena' : Arena} {target : Nat} {content : String}
    (h : Extends arena arena' target [.text content]) (htarget : target < arena.slots.size)
    (c : Char) :
    Extends arena (arena'.insertChar (.last target) c) target [.text (content.push c)] := by
  obtain ⟨added, hslot, i, is, rfl, ⟨hi, p, htext⟩, hnil⟩ := h.exists_added
  obtain rfl : is = [] := hnil
  have hback : (arena'.children target).back? = some i := by
    obtain ⟨slot, hold⟩ : ∃ slot, arena.slots[target]? = some slot :=
      ⟨_, Array.getElem?_eq_getElem htarget⟩
    simp [children, hslot, hold]
  have hlookup : ∀ j, (arena'.insertChar (.last target) c).slots[j]? =
      if j = i then some ⟨.text (content.push c), p, #[]⟩ else arena'.slots[j]? := by
    intro j
    simp only [Arena.insertChar, preceding?, hback, isText, htext, if_true, modify,
      Array.getElem?_modify]
    by_cases hj : j = i
    · simp [hj, htext]
    · simp [hj, Ne.symm hj]
  have hsize : (arena'.insertChar (.last target) c).slots.size = arena'.slots.size := by
    simp [Arena.insertChar, preceding?, hback, isText, htext, modify]
  constructor
  case size_le => rw [hsize]; exact h.size_le
  case same =>
    intro j hj hne
    rw [hlookup, if_neg (by omega), h.same j hj hne]
  case exists_added =>
    refine ⟨[i], ?_, i, [], rfl, ⟨hi, p, by rw [hlookup, if_pos rfl]⟩, rfl⟩
    rw [hlookup, if_neg (by omega), hslot]

/-- The last slot shows the last node. -/
lemma ShowsAll.exists_last {arena : Arena} {n : Node} : ∀ {ns : List Node} {low : Nat}
    {slots : List Nat}, ShowsAll arena (ns ++ [n]) low slots →
    ∃ is i, slots = is ++ [i] ∧ Shows arena n low i
  | [], _, _, ⟨i, is, hslots, hn, hnil⟩ => by
    obtain rfl : is = [] := hnil
    exact ⟨[], i, hslots, hn⟩
  | _ :: _, _, _, ⟨j, js, hslots, _, hns⟩ => by
    obtain ⟨is, i, rfl, hn⟩ := hns.exists_last
    exact ⟨j :: is, i, hslots, hn⟩

/-- A slot holds text if it shows a text. -/
lemma Shows.isText_eq {arena : Arena} {n : Node} {low i : Nat} (h : Shows arena n low i) :
    arena.isText i = n.isText := by
  cases n with
  | element tag contents children =>
    obtain ⟨-, p, c, slots, hslot, -⟩ := h
    simp [isText, hslot, Node.isText]
  | doctype _ | comment _ | text _ =>
    obtain ⟨-, p, hslot⟩ := h
    simp [isText, hslot, Node.isText]

/-- The last node that was added is the last child. -/
lemma Extends.endsInText_eq {arena arena' : Arena} {target : Nat} {ns : List Node} {n : Node}
    (h : Extends arena arena' target (ns ++ [n])) (htarget : target < arena.slots.size) :
    endsInText arena' target = n.isText := by
  obtain ⟨added, hslot, hshows⟩ := h.exists_added
  obtain ⟨is, i, rfl, hn⟩ := hshows.exists_last
  obtain ⟨slot, hold⟩ : ∃ slot, arena.slots[target]? = some slot :=
    ⟨_, Array.getElem?_eq_getElem htarget⟩
  have hback : (arena'.children target).back? = some i := by
    simp [children, hslot, hold]
  simp [endsInText, hback, hn.isText_eq]

/-! ### The finished document -/

/-- The document of an arena that extends the empty one. -/
lemma Extends.toDocument_eq {arena : Arena} {ns : List Node} (h : Extends {} arena 0 ns) :
    arena.toDocument = ⟨ns⟩ := by
  obtain ⟨added, hslot, hshows⟩ := h.exists_added
  have hchildren : (arena.children 0).toList = added := by
    simp [children, hslot]
  rw [toDocument, hchildren, hshows.nodes_eq]
  omega

end Arena

end Html

end LiterateLinks
