import LiterateLinks.Html.Arena
import LiterateLinks.Html.Token

/-!
# The state of reading a page

A page is built while its tokens come in.  What a token does depends on the insertion mode, on the
stack of open elements and on the list of formatting elements that are to be opened again.  This
module holds that state and the operations that the rules of all modes share: finding open elements,
closing them, and putting nodes where they belong.  Stacks and lists are kept with their newest
member first.
-/

namespace LiterateLinks

namespace Html

/-- Where in a page the next token stands. -/
inductive Mode where
  | initial
  | beforeHtml
  | beforeHead
  | inHead
  | afterHead
  | inBody
  | text
  | inTable
  | inTableText
  | inCaption
  | inColumnGroup
  | inTableBody
  | inRow
  | inCell
  | inSelect
  | inSelectInTable
  | inTemplate
  | afterBody
  | inFrameset
  | afterFrameset
  | afterAfterBody
  | afterAfterFrameset
  deriving Repr, DecidableEq, Inhabited

/-- What the rules act on: a character, a comment, a tag or the end of the source. -/
inductive Item where
  | char (c : Char)
  | comment (content : String)
  | startTag (tag : StartTag)
  | endTag (name : String)
  | eof
  deriving Repr, DecidableEq, Inhabited

/-- An entry of the list of formatting elements. -/
inductive Formatting where
  /-- A boundary that elements inside tables and the like do not cross. -/
  | marker
  /-- An element and the tag it was opened by. -/
  | element (node : Nat) (tag : StartTag)
  deriving Repr, DecidableEq, Inhabited

/-- The state of reading a page. -/
structure Builder where
  arena : Arena := {}
  mode : Mode := .initial
  /-- The mode to go back to after text or table text. -/
  returnMode : Mode := .initial
  /-- The open elements. -/
  stack : List Nat := []
  formatting : List Formatting := []
  templateModes : List Mode := []
  head : Option Nat := none
  form : Option Nat := none
  /-- Whether a frameset may still replace the body. -/
  framesetOk : Bool := true
  /-- Whether the doctype asks for the layout of old pages. -/
  oldLayout : Bool := false
  /-- Whether content that does not belong in a table is put in front of it. -/
  fostering : Bool := false
  tableText : List Char := []
  /-- Whether a line feed right after the last tag is left out. -/
  skipLineFeed : Bool := false
  /-- How the lexer reads what follows. -/
  textKind : TextKind := .markup
  deriving Repr, Inhabited

/-- What a rule makes of an item: it is done with it, or it has changed the state and the item is to
be looked at again. -/
inductive Step where
  | done (b : Builder)
  | again (b : Builder)
  deriving Inhabited

/-- Changes the state after a rule. -/
def Step.map (f : Builder → Builder) : Step → Step
  | .done b => .done (f b)
  | .again b => .again (f b)

/-- Whether the character is space between elements. -/
def isBlank (c : Char) : Bool :=
  c == '\t' || c == '\n' || c == '\x0c' || c == '\r' || c == ' '

/-! ### Kinds of elements -/

/-- Whether the tag is an HTML element of that name. -/
def isHtml (tag : Tag) (name : String) : Bool :=
  tag.vocabulary = .html && tag.name == name

/-- Whether the tag is an HTML element with one of the names. -/
def isHtmlIn (tag : Tag) (names : List String) : Bool :=
  tag.vocabulary = .html && names.contains tag.name

/-- Whether the element is one of the MathML elements that hold HTML text. -/
def isMathText (tag : Tag) : Bool :=
  tag.vocabulary = .mathml && ["mi", "mo", "mn", "ms", "mtext"].contains tag.name

/-- Whether the element is one of the SVG elements that hold HTML. -/
def isSvgHtml (tag : Tag) : Bool :=
  tag.vocabulary = .svg && ["foreignObject", "desc", "title"].contains tag.name

/-- The elements that end the search for most open elements. -/
def defaultScope (tag : Tag) : Bool :=
  isHtmlIn tag
      ["applet", "caption", "html", "table", "td", "th", "marquee", "object", "template"] ||
    isMathText tag || isSvgHtml tag

/-- The elements that end the search for an open list item. -/
def listItemScope (tag : Tag) : Bool :=
  defaultScope tag || isHtmlIn tag ["ol", "ul"]

/-- The elements that end the search for an open paragraph. -/
def buttonScope (tag : Tag) : Bool :=
  defaultScope tag || isHtml tag "button"

/-- The elements that end the search for an open part of a table. -/
def tableScope (tag : Tag) : Bool :=
  isHtmlIn tag ["html", "table", "template"]

/-- The elements that end the search for an open selection: all but those it consists of. -/
def selectScope (tag : Tag) : Bool :=
  !isHtmlIn tag ["optgroup", "option"]

/-- The elements whose end tag may be left out. -/
def impliedEnd : List String :=
  ["dd", "dt", "li", "option", "optgroup", "p", "rb", "rp", "rt", "rtc"]

/-- The elements whose end the end of a template implies. -/
def thoroughImpliedEnd : List String :=
  impliedEnd ++ ["caption", "colgroup", "tbody", "td", "tfoot", "th", "thead", "tr"]

/-- The headings. -/
def headings : List String :=
  ["h1", "h2", "h3", "h4", "h5", "h6"]

/-- The parts of a table in front of which misplaced content is put. -/
def fosterParts : List String :=
  ["table", "tbody", "tfoot", "thead", "tr"]

/-- The elements that misnested formatting does not cross. -/
def specialElements : List String :=
  ["address", "applet", "area", "article", "aside", "base", "basefont", "bgsound", "blockquote",
    "body", "br", "button", "caption", "center", "col", "colgroup", "dd", "details", "dir", "div",
    "dl", "dt", "embed", "fieldset", "figcaption", "figure", "footer", "form", "frame", "frameset",
    "h1", "h2", "h3", "h4", "h5", "h6", "head", "header", "hgroup", "hr", "html", "iframe", "img",
    "input", "isindex", "li", "link", "listing", "main", "marquee", "menu", "meta", "nav",
    "noembed", "noframes", "noscript", "object", "ol", "p", "param", "plaintext", "pre", "script",
    "section", "select", "source", "style", "summary", "table", "tbody", "td", "template",
    "textarea", "tfoot", "th", "thead", "title", "tr", "track", "ul", "wbr", "xmp"]

/-- Whether the element is special. -/
def isSpecial (tag : Tag) : Bool :=
  isHtmlIn tag specialElements

namespace Builder

/-! ### Open elements -/

/-- The tag of a node; nodes that are no elements do not occur on the stack. -/
def tag (b : Builder) (node : Nat) : Tag :=
  (b.arena.tag? node).getD default

/-- The innermost open element. -/
def current (b : Builder) : Nat :=
  b.stack.headD 0

/-- The tag of the innermost open element. -/
def currentTag (b : Builder) : Tag :=
  b.tag b.current

/-- Whether the innermost open element is an HTML element of that name. -/
def currentIs (b : Builder) (name : String) : Bool :=
  isHtml b.currentTag name

/-- Whether the innermost open element is an HTML element with one of the names. -/
def currentIn (b : Builder) (names : List String) : Bool :=
  isHtmlIn b.currentTag names

/-- Whether an HTML element of that name is open. -/
def hasOpen (b : Builder) (name : String) : Bool :=
  b.stack.any fun node => isHtml (b.tag node) name

/-- Whether a wanted element is among the given ones, before any that the scope ends at. -/
def searchScope (b : Builder) (scope : Tag → Bool) (wanted : Nat → Bool) : List Nat → Bool
  | [] => false
  | node :: nodes =>
    wanted node || (!scope (b.tag node) && searchScope b scope wanted nodes)

/-- Whether a wanted element is in scope. -/
def inScope (b : Builder) (scope : Tag → Bool) (wanted : Nat → Bool) : Bool :=
  b.searchScope scope wanted b.stack

/-- Whether an HTML element of that name is in scope. -/
def nameInScope (b : Builder) (scope : Tag → Bool) (name : String) : Bool :=
  b.inScope scope fun node => isHtml (b.tag node) name

/-- Opens an element. -/
def push (b : Builder) (node : Nat) : Builder :=
  { b with stack := node :: b.stack }

/-- Closes the innermost element. -/
def pop (b : Builder) : Builder :=
  { b with stack := b.stack.tail }

/-- Closes elements while the innermost one is as described. -/
def popWhile (b : Builder) (p : Tag → Bool) : Builder :=
  { b with stack := b.stack.dropWhile fun node => p (b.tag node) }

/-- Closes elements up to and including the innermost HTML element of that name. -/
def popThrough (b : Builder) (name : String) : Builder :=
  (b.popWhile fun tag => !isHtml tag name).pop

/-- Closes elements up to and including the innermost HTML element with one of the names. -/
def popThroughIn (b : Builder) (names : List String) : Builder :=
  (b.popWhile fun tag => !isHtmlIn tag names).pop

/-- Closes elements until the innermost one has one of the names. -/
def popTo (b : Builder) (names : List String) : Builder :=
  b.popWhile fun tag => !isHtmlIn tag names

/-- Takes an element off the stack, wherever it is. -/
def removeOpen (b : Builder) (node : Nat) : Builder :=
  { b with stack := b.stack.filter (· != node) }

/-- Closes the elements whose end may be left out. -/
def closeImplied (b : Builder) : Builder :=
  b.popWhile fun tag => isHtmlIn tag impliedEnd

/-- Closes the elements whose end may be left out, but none of the given name. -/
def closeImpliedExcept (b : Builder) (name : String) : Builder :=
  b.popWhile fun tag => isHtmlIn tag impliedEnd && !isHtml tag name

/-- Closes the open paragraph. -/
def closeParagraph (b : Builder) : Builder :=
  (b.closeImpliedExcept "p").popThrough "p"

/-- Closes a paragraph in button scope. -/
def closeParagraphInScope (b : Builder) : Builder :=
  if b.nameInScope buttonScope "p" then b.closeParagraph else b

/-! ### Insertion -/

/-- The place before a table for content that does not belong in it: in front of the innermost open
table, or in the contents of a template opened after it. -/
def fosterPlace (b : Builder) : List Nat → Place
  | [] => .last ((b.stack.getLast?).getD 0)
  | node :: outer =>
    let tag := b.tag node
    if isHtml tag "template" then .last ((b.arena.contents? node).getD node)
    else if isHtml tag "table" then
      match b.arena.parent? node with
      | some _ => .before node
      | none => .last (outer.headD 0)
    else b.fosterPlace outer

/-- The place for a node that belongs in the given element. -/
def placeIn (b : Builder) (target : Nat) : Place :=
  let tag := b.tag target
  if b.fostering && isHtmlIn tag fosterParts then b.fosterPlace b.stack
  else if isHtml tag "template" then .last ((b.arena.contents? target).getD target)
  else .last target

/-- Adds an element that is nowhere in the tree yet. -/
def createElement (b : Builder) (tag : Tag) : Builder × Nat :=
  let (arena, node) := b.arena.addElement tag
  ({ b with arena }, node)

/-- Puts a node where the innermost open element wants it. -/
def insertNode (b : Builder) (node : Nat) : Builder :=
  { b with arena := b.arena.insert (b.placeIn b.current) node }

/-- Inserts an element without opening it. -/
def insertClosed (b : Builder) (tag : Tag) : Builder :=
  let (b, node) := b.createElement tag
  b.insertNode node

/-- Inserts an element and opens it. -/
def insertOpen (b : Builder) (tag : Tag) : Builder :=
  let (b, node) := b.createElement tag
  (b.insertNode node).push node

/-- The HTML element of a start tag. -/
def htmlTag (tag : StartTag) : Tag :=
  { name := tag.name, attributes := tag.attributes }

/-- Inserts the HTML element of a start tag and opens it. -/
def insertHtml (b : Builder) (tag : StartTag) : Builder :=
  b.insertOpen (htmlTag tag)

/-- Inserts the HTML element of a start tag that has no content. -/
def insertVoid (b : Builder) (tag : StartTag) : Builder :=
  b.insertClosed (htmlTag tag)

/-- Opens an element that has no tag in the source. -/
def insertPhantom (b : Builder) (name : String) : Builder :=
  b.insertOpen { name }

/-- Inserts a character. -/
def insertChar (b : Builder) (c : Char) : Builder :=
  { b with arena := b.arena.insertChar (b.placeIn b.current) c }

/-- Puts a comment at a place. -/
def insertCommentAt (b : Builder) (place : Place) (content : String) : Builder :=
  let (arena, node) := b.arena.add (.comment content)
  { b with arena := arena.insert place node }

/-- Inserts a comment. -/
def insertComment (b : Builder) (content : String) : Builder :=
  b.insertCommentAt (b.placeIn b.current) content

/-- Inserts an element whose content is text of the given kind. -/
def insertTextElement (b : Builder) (tag : StartTag) (kind : TextKind) : Builder :=
  { b.insertHtml tag with textKind := kind, returnMode := b.mode, mode := .text }

/-- Gives the outermost element the attributes of a repeated start tag. -/
def mergeHtml (b : Builder) (tag : StartTag) : Builder :=
  if b.hasOpen "template" then b
  else { b with arena := b.arena.addAttributes ((b.stack.getLast?).getD 0) tag.attributes }

/-! ### The mode that fits the open elements -/

/-- The mode inside a selection: whether it stands in a table, with no template in between. -/
def selectMode (b : Builder) : List Nat → Mode
  | [] => .inSelect
  | node :: outer =>
    let tag := b.tag node
    if isHtml tag "template" then .inSelect
    else if isHtml tag "table" then .inSelectInTable
    else b.selectMode outer

/-- The mode that an open element asks for, given the elements around it. -/
def modeFor (b : Builder) (tag : Tag) (outer : List Nat) : Option Mode :=
  if tag.vocabulary ≠ .html then none
  else
    match tag.name with
    | "select" => some (b.selectMode outer)
    | "td" | "th" => if outer.isEmpty then none else some .inCell
    | "tr" => some .inRow
    | "tbody" | "thead" | "tfoot" => some .inTableBody
    | "caption" => some .inCaption
    | "colgroup" => some .inColumnGroup
    | "table" => some .inTable
    | "template" => some (b.templateModes.headD .inBody)
    | "head" => if outer.isEmpty then none else some .inHead
    | "body" => some .inBody
    | "frameset" => some .inFrameset
    | "html" => some (if b.head.isNone then .beforeHead else .afterHead)
    | _ => none

/-- The mode that the innermost of the given elements with a mode of its own asks for. -/
def fittingMode (b : Builder) : List Nat → Mode
  | [] => .inBody
  | node :: outer =>
    match b.modeFor (b.tag node) outer with
    | some mode => mode
    | none => b.fittingMode outer

/-- Goes to the mode that fits the open elements. -/
def resetMode (b : Builder) : Builder :=
  { b with mode := b.fittingMode b.stack }

end Builder

end Html

end LiterateLinks
