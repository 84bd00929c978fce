import LiterateLinks.Document.Node

/-!
# Trees under construction

While a page is read, nodes are moved about: an element may be put in front of a table that is
already in the tree, or be given the children of another one.  A tree under construction is
therefore an array of slots that refer to each other by index.  Slot `0` is the document itself.
`Arena.toDocument` turns the finished tree into a `Document`.
-/

namespace LiterateLinks

namespace Html

/-- What a slot holds. -/
inductive SlotKind where
  /-- The document, or the contents of a template. -/
  | root
  | doctype (name : String)
  | comment (content : String)
  | text (content : String)
  /-- An element and the slot of its template contents. -/
  | element (tag : Tag) (contents : Option Nat)
  deriving Repr, Inhabited

/-- A node of a tree under construction. -/
structure Slot where
  kind : SlotKind
  parent : Option Nat := none
  children : Array Nat := #[]
  deriving Repr, Inhabited

/-- A tree under construction. -/
structure Arena where
  slots : Array Slot := #[{ kind := .root }]
  deriving Repr, Inhabited

/-- Where a node is put. -/
inductive Place where
  /-- After the last child of a node. -/
  | last (parent : Nat)
  /-- Right before a node that has a parent. -/
  | before (sibling : Nat)
  deriving Repr, DecidableEq

namespace Arena

/-- Adds a node that is nowhere in the tree yet. -/
def add (arena : Arena) (kind : SlotKind) : Arena × Nat :=
  (⟨arena.slots.push { kind }⟩, arena.slots.size)

/-- Changes a slot. -/
def modify (arena : Arena) (i : Nat) (f : Slot → Slot) : Arena :=
  ⟨arena.slots.modify i f⟩

/-- The tag of an element. -/
def tag? (arena : Arena) (i : Nat) : Option Tag :=
  match arena.slots[i]? with
  | some { kind := .element tag _, .. } => some tag
  | _ => none

/-- The slot of the template contents of an element. -/
def contents? (arena : Arena) (i : Nat) : Option Nat :=
  match arena.slots[i]? with
  | some { kind := .element _ contents, .. } => contents
  | _ => none

/-- The parent of a node. -/
def parent? (arena : Arena) (i : Nat) : Option Nat :=
  arena.slots[i]?.bind (·.parent)

/-- The children of a node. -/
def children (arena : Arena) (i : Nat) : Array Nat :=
  (arena.slots[i]?.map (·.children)).getD #[]

/-- Whether the node is text. -/
def isText (arena : Arena) (i : Nat) : Bool :=
  match arena.slots[i]? with
  | some { kind := .text _, .. } => true
  | _ => false

/-- Takes a node out of its parent. -/
def detach (arena : Arena) (i : Nat) : Arena :=
  match arena.parent? i with
  | some p =>
    (arena.modify p fun s => { s with children := s.children.filter (· != i) }).modify i fun s =>
      { s with parent := none }
  | none => arena

/-- A list of children with a node put before another one. -/
def insertIn (node sibling : Nat) : List Nat → List Nat
  | [] => [node]
  | c :: cs => if c = sibling then node :: c :: cs else c :: insertIn node sibling cs

/-- Puts a node that is nowhere in the tree at a place. -/
def insert (arena : Arena) (place : Place) (node : Nat) : Arena :=
  match place with
  | .last parent =>
    (arena.modify parent fun s => { s with children := s.children.push node }).modify node fun s =>
      { s with parent := some parent }
  | .before sibling =>
    match arena.parent? sibling with
    | some parent =>
      (arena.modify parent fun s =>
        { s with children := (insertIn node sibling s.children.toList).toArray }).modify node
        fun s => { s with parent := some parent }
    | none => arena

/-- The node right before a member of a list. -/
def precedingIn (sibling : Nat) : List Nat → Option Nat
  | a :: b :: rest => if b = sibling then some a else precedingIn sibling (b :: rest)
  | _ => none

/-- The node after which a place is. -/
def preceding? (arena : Arena) : Place → Option Nat
  | .last parent => (arena.children parent).back?
  | .before sibling => do
    precedingIn sibling (arena.children (← arena.parent? sibling)).toList

/-- Puts a character at a place, in the text before it if there is one. -/
def insertChar (arena : Arena) (place : Place) (c : Char) : Arena :=
  match arena.preceding? place with
  | some i =>
    if arena.isText i then
      arena.modify i fun s =>
        match s with
        | ⟨.text content, parent, children⟩ => ⟨.text (content.push c), parent, children⟩
        | s => s
    else addText arena
  | none => addText arena
where
  addText (arena : Arena) : Arena :=
    let (arena, node) := arena.add (.text (String.singleton c))
    arena.insert place node

/-- Moves the children of a node to the end of another one. -/
def moveChildren (arena : Arena) (source target : Nat) : Arena :=
  let moved := arena.children source
  let arena := arena.modify source fun s => { s with children := #[] }
  let arena := arena.modify target fun s => { s with children := s.children ++ moved }
  moved.foldl (fun arena i => arena.modify i fun s => { s with parent := some target }) arena

/-- Gives an element the attributes it does not have yet. -/
def addAttributes (arena : Arena) (i : Nat) (attributes : List Attribute) : Arena :=
  arena.modify i fun s =>
    match s.kind with
    | .element tag contents =>
      let missing := attributes.filter fun a => !tag.attributes.any (·.name == a.name)
      { s with kind := .element { tag with attributes := tag.attributes ++ missing } contents }
    | _ => s

/-- Adds an element that is nowhere in the tree yet. -/
def addElement (arena : Arena) (tag : Tag) : Arena × Nat :=
  if tag.vocabulary = .html && tag.name = "template" then
    let (arena, contents) := arena.add .root
    arena.add (.element tag (some contents))
  else arena.add (.element tag none)

/-- The nodes of a list of slots.  A tree is never deeper than it has slots, so the number of slots
is fuel enough. -/
def nodes (arena : Arena) : Nat → List Nat → List Node
  | 0, _ => []
  | fuel + 1, slots => slots.filterMap fun i =>
    match arena.slots[i]? with
    | none => none
    | some slot =>
      match slot.kind with
      | .root => none
      | .doctype name => some (.doctype name)
      | .comment content => some (.comment content)
      | .text content => some (.text content)
      | .element tag contents =>
        some (.element tag (contents.map fun c => arena.nodes fuel (arena.children c).toList)
          (arena.nodes fuel slot.children.toList))

/-- The finished document. -/
def toDocument (arena : Arena) : Document :=
  ⟨arena.nodes (arena.slots.size + 1) (arena.children 0).toList⟩

end Arena

end Html

end LiterateLinks
