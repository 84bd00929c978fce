import LiterateLinks.Html.Construction.Embedded
import LiterateLinks.Html.Construction.Head

/-!
# The body of a page

The rules for the content of a page and for what may follow it.  Start tags close the elements that
cannot contain them, end tags close what is open inside the element they name, and text opens again
the formatting that surrounds it.
-/

namespace LiterateLinks

namespace Html

namespace Builder

/-- Elements that close an open paragraph and may hold other elements. -/
def blockElements : List String :=
  ["address", "article", "aside", "blockquote", "center", "details", "dialog", "dir", "div", "dl",
    "fieldset", "figcaption", "figure", "footer", "header", "hgroup", "main", "menu", "nav", "ol",
    "p", "search", "section", "summary", "ul"]

/-- Elements that an end tag closes when they are in scope. -/
def closableElements : List String :=
  ["address", "article", "aside", "blockquote", "button", "center", "details", "dialog", "dir",
    "div", "dl", "fieldset", "figcaption", "figure", "footer", "header", "hgroup", "listing",
    "main", "menu", "nav", "ol", "pre", "search", "section", "summary", "ul"]

/-- Elements that format the text in them. -/
def formattingElements : List String :=
  ["a", "b", "big", "code", "em", "font", "i", "nobr", "s", "small", "strike", "strong", "tt", "u"]

/-- Elements that hold a page of their own. -/
def enclosingElements : List String :=
  ["applet", "marquee", "object"]

/-- Elements that only belong in certain places outside the body. -/
def misplacedElements : List String :=
  ["caption", "col", "colgroup", "frame", "head", "tbody", "td", "tfoot", "th", "thead", "tr"]

/-- No frameset can replace the body any more. -/
def noFrameset (b : Builder) : Builder :=
  { b with framesetOk := false }

/-- Whether an input element is not shown. -/
def isHidden (tag : StartTag) : Bool :=
  (tag.attributes.find? (·.name == "type")).any fun a =>
    a.value.toList.map Char.toLower == "hidden".toList

/-- The body, if it is the second outermost element. -/
def bodyElement? (b : Builder) : Option Nat :=
  b.stack.reverse[1]?.filter fun node => isHtml (b.tag node) "body"

/-- The end of the source inside a template closes it. -/
def stepTemplateEnd (b : Builder) : Step :=
  if b.hasOpen "template" then
    let b := (b.popThrough "template").clearFormatting
    .again { b with templateModes := b.templateModes.tail }.resetMode
  else .done b

/-- Whether an open element ends the search for the list item that a new one closes. -/
def endsItemSearch (tag : Tag) : Bool :=
  isSpecial tag && !isHtmlIn tag ["address", "div", "p"]

/-- The name of the open list item that a new one closes. -/
def itemToClose? (b : Builder) (names : List String) : Option String :=
  (b.stack.find? fun node => isHtmlIn (b.tag node) names || endsItemSearch (b.tag node)).bind
    fun node => if isHtmlIn (b.tag node) names then some (b.tag node).name else none

/-- Opens a list item and closes the one before it. -/
def openItem (b : Builder) (names : List String) (tag : StartTag) : Builder :=
  let b := b.noFrameset
  let b :=
    match b.itemToClose? names with
    | some name => (b.closeImpliedExcept name).popThrough name
    | none => b
  b.closeParagraphInScope.insertHtml tag

/-- Opens a form unless one is open. -/
def openForm (b : Builder) (tag : StartTag) : Builder :=
  let nested := b.hasOpen "template"
  if b.form.isSome && !nested then b
  else
    let b := b.closeParagraphInScope.insertHtml tag
    if nested then b else { b with form := some b.current }

/-- Closes a form. -/
def closeForm (b : Builder) : Builder :=
  if b.hasOpen "template" then
    if b.nameInScope defaultScope "form" then b.closeImplied.popThrough "form" else b
  else
    match b.form with
    | none => b
    | some node =>
      let b := { b with form := none }
      if b.inScope defaultScope (· == node) then b.closeImplied.removeOpen node else b

/-- Opens a link; an open one is closed first. -/
def openAnchor (b : Builder) (tag : StartTag) : Builder :=
  let b :=
    match b.recentFormatting.find? fun (node, _) => isHtml (b.tag node) "a" with
    | some (node, _) => ((b.adopt "a").removeFormatting node).removeOpen node
    | none => b
  b.reconstruct.insertFormatting tag

/-- Opens text that must not break; open text of that kind is closed first. -/
def openNobr (b : Builder) (tag : StartTag) : Builder :=
  let b := b.reconstruct
  let b := if b.nameInScope defaultScope "nobr" then (b.adopt "nobr").reconstruct else b
  b.insertFormatting tag

/-- The mode inside a selection that starts here. -/
def selectionMode (mode : Mode) : Mode :=
  if [.inTable, .inCaption, .inTableBody, .inRow, .inCell].contains mode then .inSelectInTable
  else .inSelect

/-- The rules for a start tag in the body. -/
def startInBody (b : Builder) (tag : StartTag) : Builder :=
  let name := tag.name
  if blockElements.contains name then b.closeParagraphInScope.insertHtml tag
  else if headings.contains name then
    let b := b.closeParagraphInScope
    (if b.currentIn headings then b.pop else b).insertHtml tag
  else if misplacedElements.contains name then b
  else if enclosingElements.contains name then
    ((b.reconstruct.insertHtml tag).addMarker).noFrameset
  else
    match name with
    | "html" => b.mergeHtml tag
    | "body" =>
      match b.bodyElement? with
      | some node =>
        if b.hasOpen "template" then b
        else { b with framesetOk := false, arena := b.arena.addAttributes node tag.attributes }
      | none => b
    | "frameset" =>
      match b.framesetOk, b.bodyElement? with
      | true, some node =>
        let b := { b with arena := b.arena.detach node, stack := b.stack.reverse.take 1 }
        { b.insertHtml tag with mode := .inFrameset }
      | _, _ => b
    | "pre" | "listing" =>
      { (b.closeParagraphInScope.insertHtml tag).noFrameset with skipLineFeed := true }
    | "form" => b.openForm tag
    | "li" => b.openItem ["li"] tag
    | "dd" | "dt" => b.openItem ["dd", "dt"] tag
    | "plaintext" => { b.closeParagraphInScope.insertHtml tag with textKind := .plain }
    | "button" =>
      let b :=
        if b.nameInScope defaultScope "button" then b.closeImplied.popThrough "button" else b
      (b.reconstruct.insertHtml tag).noFrameset
    | "a" => b.openAnchor tag
    | "nobr" => b.openNobr tag
    | "b" | "big" | "code" | "em" | "font" | "i" | "s" | "small" | "strike" | "strong" | "tt"
    | "u" =>
      b.reconstruct.insertFormatting tag
    | "table" =>
      let b := if b.oldLayout then b else b.closeParagraphInScope
      { (b.insertHtml tag).noFrameset with mode := .inTable }
    | "area" | "br" | "embed" | "img" | "keygen" | "wbr" =>
      (b.reconstruct.insertVoid tag).noFrameset
    | "image" => (b.reconstruct.insertVoid { tag with name := "img" }).noFrameset
    | "input" =>
      let b := b.reconstruct.insertVoid tag
      if isHidden tag then b else b.noFrameset
    | "param" | "source" | "track" => b.insertVoid tag
    | "hr" => (b.closeParagraphInScope.insertVoid tag).noFrameset
    | "textarea" =>
      { b.noFrameset.insertTextElement tag (.escapable "textarea") with skipLineFeed := true }
    | "xmp" => b.closeParagraphInScope.reconstruct.noFrameset.insertTextElement tag (.raw "xmp")
    | "iframe" => b.noFrameset.insertTextElement tag (.raw "iframe")
    | "noembed" | "noscript" => b.insertTextElement tag (.raw name)
    | "select" => { (b.reconstruct.insertHtml tag).noFrameset with mode := selectionMode b.mode }
    | "optgroup" | "option" =>
      (if b.currentIs "option" then b.pop else b).reconstruct.insertHtml tag
    | "rb" | "rtc" =>
      (if b.nameInScope defaultScope "ruby" then b.closeImplied else b).insertHtml tag
    | "rp" | "rt" =>
      (if b.nameInScope defaultScope "ruby" then b.closeImpliedExcept "rtc" else b).insertHtml tag
    | "math" => b.insertEmbedded .mathml tag
    | "svg" => b.insertEmbedded .svg tag
    | _ => b.reconstruct.insertHtml tag

/-- The rules for an end tag in the body. -/
def endInBody (b : Builder) (name : String) : Step :=
  if closableElements.contains name then
    .done (if b.nameInScope defaultScope name then b.closeImplied.popThrough name else b)
  else if headings.contains name then
    let open? := b.inScope defaultScope fun node => isHtmlIn (b.tag node) headings
    .done (if open? then b.closeImplied.popThroughIn headings else b)
  else if formattingElements.contains name then .done (b.adopt name)
  else if enclosingElements.contains name then
    .done (if b.nameInScope defaultScope name then
      (b.closeImplied.popThrough name).clearFormatting else b)
  else
    match name with
    | "body" =>
      .done (if b.nameInScope defaultScope "body" then { b with mode := .afterBody } else b)
    | "html" =>
      if b.nameInScope defaultScope "body" then .again { b with mode := .afterBody } else .done b
    | "form" => .done b.closeForm
    | "p" =>
      let b := if b.nameInScope buttonScope "p" then b else b.insertPhantom "p"
      .done b.closeParagraph
    | "li" =>
      .done (if b.nameInScope listItemScope "li" then
        (b.closeImpliedExcept "li").popThrough "li" else b)
    | "dd" | "dt" =>
      .done (if b.nameInScope defaultScope name then
        (b.closeImpliedExcept name).popThrough name else b)
    | "br" => .done (b.reconstruct.insertVoid { name := "br" }).noFrameset
    | _ => .done (b.closeNamed name)

/-- The rules in the body. -/
def stepInBody (b : Builder) (item : Item) : Step :=
  match b.headContent? item with
  | some b => .done b
  | none =>
    match item with
    | .char c =>
      if c = '\x00' then .done b
      else
        let b := b.reconstruct.insertChar c
        .done (if isBlank c then b else b.noFrameset)
    | .comment content => .done (b.insertComment content)
    | .startTag tag => .done (b.startInBody tag)
    | .endTag name => b.endInBody name
    | .eof => if b.templateModes.isEmpty then .done b else b.stepTemplateEnd

/-- The rules in the text of an element that holds text only. -/
def stepText (b : Builder) (item : Item) : Step :=
  let close : Builder := { b.pop with mode := b.returnMode, textKind := .markup }
  match item with
  | .char c => .done (b.insertChar c)
  | .endTag _ => .done close
  | .eof => .again close
  | _ => .done b

/-- The rules after the body. -/
def stepAfterBody (b : Builder) (item : Item) : Step :=
  let otherwise := Step.again { b with mode := .inBody }
  match item with
  | .char c => if isBlank c then b.stepInBody item else otherwise
  | .comment content => .done (b.insertCommentAt (.last ((b.stack.getLast?).getD 0)) content)
  | .startTag tag => if tag.name = "html" then .done (b.mergeHtml tag) else otherwise
  | .endTag "html" => .done { b with mode := .afterAfterBody }
  | .endTag _ => otherwise
  | .eof => .done b

/-- The rules after the end of the page. -/
def stepAfterAfterBody (b : Builder) (item : Item) : Step :=
  let otherwise := Step.again { b with mode := .inBody }
  match item with
  | .char c => if isBlank c then b.stepInBody item else otherwise
  | .comment content => .done (b.commentOnDocument content)
  | .startTag tag => if tag.name = "html" then .done (b.mergeHtml tag) else otherwise
  | .endTag _ => otherwise
  | .eof => .done b

/-- The rules in a template. -/
def stepInTemplate (b : Builder) (item : Item) : Step :=
  let enter (mode : Mode) : Step :=
    .again { b with templateModes := mode :: b.templateModes.tail, mode := mode }
  match b.headContent? item with
  | some b => .done b
  | none =>
    match item with
    | .char c => if c = '\x00' then .done b else b.stepInBody item
    | .comment _ => b.stepInBody item
    | .startTag tag =>
      match tag.name with
      | "caption" | "colgroup" | "tbody" | "tfoot" | "thead" => enter .inTable
      | "col" => enter .inColumnGroup
      | "tr" => enter .inTableBody
      | "td" | "th" => enter .inRow
      | _ => enter .inBody
    | .endTag _ => .done b
    | .eof => b.stepTemplateEnd

/-! ### Framesets -/

/-- The rules in a frameset. -/
def stepInFrameset (b : Builder) (item : Item) : Step :=
  match item with
  | .char c => .done (if isBlank c then b.insertChar c else b)
  | .comment content => .done (b.insertComment content)
  | .startTag tag =>
    match tag.name with
    | "html" => .done (b.mergeHtml tag)
    | "frameset" => .done (b.insertHtml tag)
    | "frame" => .done (b.insertVoid tag)
    | "noframes" => .done (b.insertTextElement tag (.raw "noframes"))
    | _ => .done b
  | .endTag "frameset" =>
    if b.stack.length ≤ 1 then .done b
    else
      let b := b.pop
      .done (if b.currentIs "frameset" then b else { b with mode := .afterFrameset })
  | _ => .done b

/-- The rules after a frameset. -/
def stepAfterFrameset (b : Builder) (item : Item) : Step :=
  match item with
  | .char c => .done (if isBlank c then b.insertChar c else b)
  | .comment content => .done (b.insertComment content)
  | .startTag tag =>
    match tag.name with
    | "html" => .done (b.mergeHtml tag)
    | "noframes" => .done (b.insertTextElement tag (.raw "noframes"))
    | _ => .done b
  | .endTag "html" => .done { b with mode := .afterAfterFrameset }
  | _ => .done b

/-- The rules after the end of a page with framesets. -/
def stepAfterAfterFrameset (b : Builder) (item : Item) : Step :=
  match item with
  | .char c => if isBlank c then b.stepInBody item else .done b
  | .comment content => .done (b.commentOnDocument content)
  | .startTag tag =>
    match tag.name with
    | "html" => .done (b.mergeHtml tag)
    | "noframes" => .done (b.insertTextElement tag (.raw "noframes"))
    | _ => .done b
  | _ => .done b

end Builder

end Html

end LiterateLinks
