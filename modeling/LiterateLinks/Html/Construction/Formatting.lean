import LiterateLinks.Html.Construction.Basic

/-!
# Formatting elements

A formatting element that is closed by the end of a surrounding element is opened again after it,
and one whose end tag comes in the wrong order is split.  The list of formatting elements remembers
what is to be opened again; `Builder.adopt` closes a formatting element that may be misnested.
-/

namespace LiterateLinks

namespace Html

namespace Builder

/-- The entries since the last marker. -/
def recentFormatting (b : Builder) : List (Nat × StartTag) :=
  (b.formatting.takeWhile (· != .marker)).filterMap fun
    | .element node tag => some (node, tag)
    | .marker => none

/-- Whether the entry is that of the node. -/
def isEntryOf (node : Nat) : Formatting → Bool
  | .element n _ => n == node
  | .marker => false

/-- Whether the node has an entry. -/
def isFormatting (b : Builder) (node : Nat) : Bool :=
  b.formatting.any (isEntryOf node)

/-- Removes the entry of a node. -/
def removeFormatting (b : Builder) (node : Nat) : Builder :=
  { b with formatting := b.formatting.filter fun e => !isEntryOf node e }

/-- Replaces the node of an entry. -/
def replaceFormatting (b : Builder) (node : Nat) (entry : Formatting) : Builder :=
  { b with formatting := b.formatting.map fun e => if isEntryOf node e then entry else e }

/-- Adds a marker. -/
def addMarker (b : Builder) : Builder :=
  { b with formatting := .marker :: b.formatting }

/-- Removes the entries up to and including the last marker. -/
def clearFormatting (b : Builder) : Builder :=
  { b with formatting := (b.formatting.dropWhile (· != .marker)).tail }

/-- The entries, newest first, that stand for elements to be opened again. -/
def closedFormatting (b : Builder) : List (Nat × StartTag) :=
  b.recentFormatting.takeWhile fun (node, _) => !b.stack.contains node

/-- Opens the formatting elements again that have been closed by the end of an element around
them. -/
def reconstruct (b : Builder) : Builder :=
  b.closedFormatting.reverse.foldl (fun b (old, tag) =>
    let (b, node) := b.createElement (htmlTag tag)
    ((b.insertNode node).push node).replaceFormatting old (.element node tag)) b

/-- Whether two tags have the same name and the same attributes in any order. -/
def sameTag (s t : StartTag) : Bool :=
  s.name == t.name && s.attributes.length == t.attributes.length &&
    s.attributes.all fun a => t.attributes.contains a

/-- Inserts a formatting element.  Of more than three entries with the same tag the oldest is
forgotten. -/
def insertFormatting (b : Builder) (tag : StartTag) : Builder :=
  let same := b.recentFormatting.filter fun (_, old) => sameTag tag old
  let b :=
    match same.getLast? with
    | some (oldest, _) => if 3 ≤ same.length then b.removeFormatting oldest else b
    | none => b
  let (b, node) := b.createElement (htmlTag tag)
  let b := (b.insertNode node).push node
  { b with formatting := .element node tag :: b.formatting }

/-! ### Misnested end tags -/

/-- Closes the innermost element that an end tag may name: the search ends at special elements. -/
def closeNamed (b : Builder) (name : String) : Builder :=
  match b.stack.find? fun node => isHtml (b.tag node) name || isSpecial (b.tag node) with
  | some node =>
    if isHtml (b.tag node) name then
      let b := b.closeImpliedExcept name
      { b with stack := (b.stack.dropWhile (· != node)).tail }
    else b
  | none => b

/-- Where the new entry of a split element goes. -/
inductive Bookmark where
  /-- In place of the old one. -/
  | replace
  /-- Right after the entry of another node. -/
  | after (node : Nat)

/-- Splits the elements between the formatting element and the block it reaches into.  The nodes are
given from the block outwards; `count` of them have been looked at, and `last` is the node that the
next copy is put around. -/
def splitBetween (block : Nat) : Nat → Nat → Bookmark → Builder → List Nat →
    Builder × Nat × Bookmark
  | _, last, bookmark, b, [] => (b, last, bookmark)
  | count, last, bookmark, b, node :: outer =>
    let entry := b.formatting.find? (isEntryOf node)
    match if count + 1 > 3 then none else entry with
    | some (.element _ tag) =>
      let (b, copy) := b.createElement (htmlTag tag)
      let b := b.replaceFormatting node (.element copy tag)
      let b := { b with stack := b.stack.map fun n => if n = node then copy else n }
      let bookmark := if last = block then .after copy else bookmark
      let b := { b with arena := (b.arena.detach last).insert (.last copy) last }
      splitBetween block (count + 1) copy bookmark b outer
    | _ =>
      splitBetween block (count + 1) last bookmark ((b.removeFormatting node).removeOpen node) outer

/-- Puts an entry right after that of another node. -/
def insertAfterEntry (node : Nat) (entry : Formatting) : List Formatting → List Formatting
  | [] => [entry]
  | e :: es => if isEntryOf node e then entry :: e :: es else e :: insertAfterEntry node entry es

/-- Puts an open element right inside another one. -/
def openInside (outer node : Nat) : List Nat → List Nat
  | [] => [node]
  | n :: ns => if n = outer then node :: n :: ns else n :: openInside outer node ns

/-- Splits a formatting element that reaches into a block: the block is moved out of it, and a copy
of the element is put around the content of the block. -/
def splitFormatting (b : Builder) (element : Nat) (tag : StartTag) (block : Nat) : Builder :=
  let inner := b.stack.takeWhile (· != element)
  let ancestor := (b.stack.dropWhile (· != element)).tail.headD 0
  let between := (inner.dropWhile (· != block)).tail
  let (b, last, bookmark) := splitBetween block 0 block .replace b between
  let b := { b with arena := b.arena.detach last }
  let b := { b with arena := b.arena.insert (b.placeIn ancestor) last }
  let (b, copy) := b.createElement (htmlTag tag)
  let b := { b with arena := (b.arena.moveChildren block copy).insert (.last block) copy }
  let entry := Formatting.element copy tag
  let b :=
    match bookmark with
    | .replace => b.replaceFormatting element entry
    | .after node =>
      { b with formatting := insertAfterEntry node entry b.formatting }.removeFormatting element
  let b := b.removeOpen element
  { b with stack := openInside block copy b.stack }

/-- One round of closing a formatting element; `none` when there is nothing more to do. -/
def adoptOnce (b : Builder) (name : String) : Builder × Bool :=
  match b.recentFormatting.find? fun (_, tag) => tag.name == name with
  | none => (b.closeNamed name, false)
  | some (element, tag) =>
    if !b.stack.contains element then (b.removeFormatting element, false)
    else if !b.inScope defaultScope (· == element) then (b, false)
    else
      match (b.stack.takeWhile (· != element)).reverse.find? fun node => isSpecial (b.tag node) with
      | none =>
        let b := { b with stack := (b.stack.dropWhile (· != element)).tail }
        (b.removeFormatting element, false)
      | some block => (b.splitFormatting element tag block, true)

/-- Repeats the rounds of closing a formatting element. -/
def adoptRounds : Nat → Builder → String → Builder
  | 0, b, _ => b
  | rounds + 1, b, name =>
    let (b, more) := b.adoptOnce name
    if more then adoptRounds rounds b name else b

/-- Closes a formatting element that may be misnested. -/
def adopt (b : Builder) (name : String) : Builder :=
  if b.currentIs name && !b.isFormatting b.current then b.pop else adoptRounds 8 b name

end Builder

end Html

end LiterateLinks
