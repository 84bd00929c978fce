import LiterateLinks.Html.Construction.Table

/-!
# Embedded content

The choice of the rule for an item: by the insertion mode, or, inside SVG and MathML, by the rules
of embedded content.  Tags that clearly belong to the page around it end the embedded content.
-/

namespace LiterateLinks

namespace Html

namespace Builder

/-- The rules of the current mode. -/
def stepMode (b : Builder) (item : Item) : Step :=
  match b.mode with
  | .initial => b.stepInitial item
  | .beforeHtml => b.stepBeforeHtml item
  | .beforeHead => b.stepBeforeHead item
  | .inHead => b.stepInHead item
  | .afterHead => b.stepAfterHead item
  | .inBody => b.stepInBody item
  | .text => b.stepText item
  | .inTable => b.stepInTable item
  | .inTableText => b.stepInTableText item
  | .inCaption => b.stepInCaption item
  | .inColumnGroup => b.stepInColumnGroup item
  | .inTableBody => b.stepInTableBody item
  | .inRow => b.stepInRow item
  | .inCell => b.stepInCell item
  | .inSelect => b.stepInSelect item
  | .inSelectInTable => b.stepInSelectInTable item
  | .inTemplate => b.stepInTemplate item
  | .afterBody => b.stepAfterBody item
  | .inFrameset => b.stepInFrameset item
  | .afterFrameset => b.stepAfterFrameset item
  | .afterAfterBody => b.stepAfterAfterBody item
  | .afterAfterFrameset => b.stepAfterAfterFrameset item

/-- Whether an annotation says that it holds HTML. -/
def holdsHtml (tag : Tag) : Bool :=
  (tag.get? "encoding").any fun encoding =>
    ["text/html", "application/xhtml+xml"].contains
      (String.ofList (encoding.toList.map Char.toLower))

/-- Whether the item is embedded content, given the element it stands in. -/
def isEmbedded (tag : Tag) (item : Item) : Bool :=
  let isChar := match item with
    | .char _ => true
    | _ => false
  let startName? := match item with
    | .startTag t => some t.name
    | _ => none
  if tag.vocabulary = .html then false
  else if item == .eof then false
  else if isMathText tag &&
      (isChar || startName?.any fun name => !(["mglyph", "malignmark"].contains name)) then false
  else if isSvgHtml tag && (isChar || startName?.isSome) then false
  else if tag.vocabulary = .mathml && tag.name == "annotation-xml" then
    if startName? == some "svg" then false
    else !((isChar || startName?.isSome) && holdsHtml tag)
  else true

/-- The start tags that end embedded content. -/
def breakoutElements : List String :=
  ["b", "big", "blockquote", "body", "br", "center", "code", "dd", "div", "dl", "dt", "em", "embed",
    "h1", "h2", "h3", "h4", "h5", "h6", "head", "hr", "i", "img", "li", "listing", "menu", "meta",
    "nobr", "ol", "p", "pre", "ruby", "s", "small", "span", "strong", "strike", "sub", "sup",
    "table", "tt", "u", "ul", "var"]

/-- Whether a start tag ends embedded content. -/
def breaksOut (tag : StartTag) : Bool :=
  breakoutElements.contains tag.name ||
    (tag.name == "font" && tag.attributes.any fun a => ["color", "face", "size"].contains a.name)

/-- Ends the embedded content and applies the rules of the mode. -/
def breakOut (b : Builder) (item : Item) : Step :=
  (b.popWhile fun tag => !(tag.vocabulary = .html || isMathText tag || isSvgHtml tag)).stepMode item

/-- Closes the embedded element that an end tag names.  The elements are given from the innermost
one on; at an element of the page the rules of the mode apply. -/
def closeEmbedded (b : Builder) (name : String) (innermost : Bool) : List Nat → Step
  | [] => .done b
  | [_] => .done b
  | node :: outer =>
    let tag := b.tag node
    if !innermost && tag.vocabulary = .html then b.stepMode (.endTag name)
    else if tag.name.toList.map Char.toLower == name.toList then .done { b with stack := outer }
    else b.closeEmbedded name false outer

/-- The rules of embedded content. -/
def stepEmbedded (b : Builder) (item : Item) : Step :=
  match item with
  | .char c =>
    if c = '\x00' then .done (b.insertChar '\ufffd')
    else
      let b := b.insertChar c
      .done (if isBlank c then b else b.noFrameset)
  | .comment content => .done (b.insertComment content)
  | .startTag tag =>
    if breaksOut tag then b.breakOut item
    else .done (b.insertEmbedded b.currentTag.vocabulary tag)
  | .endTag name =>
    if name = "br" || name = "p" then b.breakOut item else b.closeEmbedded name true b.stack
  | .eof => .done b

/-- The rule for an item. -/
def step (b : Builder) (item : Item) : Step :=
  if !b.stack.isEmpty && isEmbedded b.currentTag item then b.stepEmbedded item else b.stepMode item

/-- Applies rules to an item until one is done with it.  A rule that wants the item to be looked at
again has closed an element or moved on to a later mode, so the number of open elements bounds the
rounds. -/
def settle : Nat → Builder → Item → Builder
  | 0, b, _ => b
  | fuel + 1, b, item =>
    match b.step item with
    | .done b => b
    | .again b => settle fuel b item

/-- Takes one item. -/
def take (b : Builder) (item : Item) : Builder :=
  settle (2 * b.stack.length + 24) b item

/-- Whether the innermost element is not an element of the page, so that character data sections are
read as such. -/
def isForeign (b : Builder) : Bool :=
  !b.stack.isEmpty && b.currentTag.vocabulary ≠ .html

/-- Takes one token.  A line feed right after certain start tags is left out, unless a broken
reference stands for it. -/
def feed (b : Builder) (token : Token) : Builder :=
  let skip := b.skipLineFeed
  let b := { b with skipLineFeed := false }
  match token with
  | .doctype d => b.addDoctype d
  | .startTag tag => b.take (.startTag tag)
  | .endTag name => b.take (.endTag name)
  | .comment content => b.take (.comment content)
  | .text content broken =>
    let leaveOut := skip && !broken && content.head? == some '\n'
    let content := if leaveOut then content.tail else content
    content.foldl (fun b c => b.take (.char c)) b
  | .eof => b.take .eof

end Builder

end Html

end LiterateLinks
