import LiterateLinks.Html.Construction.Formatting

/-!
# The start of a page

The rules up to the body: the doctype, the outermost element and the head.  Whatever is left out of
a source is supplied, so every page gets a head and a body.
-/

namespace LiterateLinks

namespace Html

namespace Builder

/-! ### Doctypes and the layout they ask for -/

/-- The starts of public identifiers that ask for the layout of old pages, in lower case. -/
def oldLayoutStarts : List String :=
  ["-//advasoft ltd//dtd html 3.0 aswedit + extensions//",
    "-//as//dtd html 3.0 aswedit + extensions//",
    "-//ietf//dtd html 2.0 level 1//", "-//ietf//dtd html 2.0 level 2//",
    "-//ietf//dtd html 2.0 strict level 1//", "-//ietf//dtd html 2.0 strict level 2//",
    "-//ietf//dtd html 2.0 strict//", "-//ietf//dtd html 2.0//", "-//ietf//dtd html 2.1e//",
    "-//ietf//dtd html 3.0//", "-//ietf//dtd html 3.2 final//", "-//ietf//dtd html 3.2//",
    "-//ietf//dtd html 3//", "-//ietf//dtd html level 0//", "-//ietf//dtd html level 1//",
    "-//ietf//dtd html level 2//", "-//ietf//dtd html level 3//",
    "-//ietf//dtd html strict level 0//", "-//ietf//dtd html strict level 1//",
    "-//ietf//dtd html strict level 2//", "-//ietf//dtd html strict level 3//",
    "-//ietf//dtd html strict//", "-//ietf//dtd html//",
    "-//metrius//dtd metrius presentational//",
    "-//microsoft//dtd internet explorer 2.0 html strict//",
    "-//microsoft//dtd internet explorer 2.0 html//",
    "-//microsoft//dtd internet explorer 2.0 tables//",
    "-//microsoft//dtd internet explorer 3.0 html strict//",
    "-//microsoft//dtd internet explorer 3.0 html//",
    "-//microsoft//dtd internet explorer 3.0 tables//",
    "-//netscape comm. corp.//dtd html//", "-//netscape comm. corp.//dtd strict html//",
    "-//o'reilly and associates//dtd html 2.0//",
    "-//o'reilly and associates//dtd html extended 1.0//",
    "-//o'reilly and associates//dtd html extended relaxed 1.0//",
    "-//softquad software//dtd hotmetal pro 6.0::19990601::extensions to html 4.0//",
    "-//softquad//dtd hotmetal pro 4.0::19971010::extensions to html 4.0//",
    "-//spyglass//dtd html 2.0 extended//", "-//sq//dtd html 2.0 hotmetal + extensions//",
    "-//sun microsystems corp.//dtd hotjava html//",
    "-//sun microsystems corp.//dtd hotjava strict html//", "-//w3c//dtd html 3 1995-03-24//",
    "-//w3c//dtd html 3.2 draft//", "-//w3c//dtd html 3.2 final//", "-//w3c//dtd html 3.2//",
    "-//w3c//dtd html 3.2s draft//", "-//w3c//dtd html 4.0 frameset//",
    "-//w3c//dtd html 4.0 transitional//", "-//w3c//dtd html experimental 19960712//",
    "-//w3c//dtd html experimental 970421//", "-//w3c//dtd w3 html//", "-//w3o//dtd w3 html 3.0//",
    "-//webtechs//dtd mozilla html 2.0//", "-//webtechs//dtd mozilla html//"]

/-- The public identifiers that ask for the layout of old pages, in lower case. -/
def oldLayoutIds : List String :=
  ["-//w3o//dtd w3 html strict 3.0//en//", "-/w3c/dtd html 4.0 transitional/en", "html"]

/-- The starts of public identifiers that ask for the layout of old pages when there is no system
identifier, in lower case. -/
def oldLayoutStartsAlone : List String :=
  ["-//w3c//dtd html 4.01 frameset//", "-//w3c//dtd html 4.01 transitional//"]

/-- Whether a doctype asks for the layout of old pages. -/
def asksForOldLayout (d : Doctype) : Bool :=
  let lower (s : String) : List Char := s.toList.map Char.toLower
  let publicId := lower (d.publicId.getD "")
  let startsWith (starts : List String) := starts.any fun s => s.toList.isPrefixOf publicId
  d.defective || d.name != some "html" ||
    oldLayoutIds.any (fun s => s.toList == publicId && d.publicId.isSome) ||
    (d.systemId.map lower ==
      some "http://www.ibm.com/data/dtd/v11/ibmxhtml1-transitional.dtd".toList) ||
    startsWith oldLayoutStarts || (d.systemId.isNone && startsWith oldLayoutStartsAlone)

/-- Takes a doctype, which counts only at the start of a page. -/
def addDoctype (b : Builder) (d : Doctype) : Builder :=
  if b.mode = .initial then
    let (arena, node) := b.arena.add (.doctype (d.name.getD ""))
    { b with
      arena := arena.insert (.last 0) node
      oldLayout := asksForOldLayout d
      mode := .beforeHtml }
  else b

/-! ### Before the head -/

/-- Puts a comment at the end of the document. -/
def commentOnDocument (b : Builder) (content : String) : Builder :=
  b.insertCommentAt (.last 0) content

/-- The rules before a doctype. -/
def stepInitial (b : Builder) (item : Item) : Step :=
  match item with
  | .comment content => .done (b.commentOnDocument content)
  | .char c =>
    if isBlank c then .done b else .again { b with oldLayout := true, mode := .beforeHtml }
  | _ => .again { b with oldLayout := true, mode := .beforeHtml }

/-- Opens the outermost element. -/
def createRoot (b : Builder) (attributes : List Attribute) : Builder :=
  let (b, node) := b.createElement { name := "html", attributes }
  { b with arena := b.arena.insert (.last 0) node, stack := [node], mode := .beforeHead }

/-- Whether an end tag may stand for the end of parts of a page that were left out, the head
aside. -/
def endsPage (name : String) : Bool :=
  ["body", "html", "br"].contains name

/-- Whether an end tag may stand for the end of parts that were left out. -/
def endsHeadOrPage (name : String) : Bool :=
  name = "head" || endsPage name

/-- The rules before the outermost element. -/
def stepBeforeHtml (b : Builder) (item : Item) : Step :=
  let otherwise := Step.again (b.createRoot [])
  match item with
  | .comment content => .done (b.commentOnDocument content)
  | .char c => if isBlank c then .done b else otherwise
  | .startTag tag => if tag.name = "html" then .done (b.createRoot tag.attributes) else otherwise
  | .endTag name => if endsHeadOrPage name then otherwise else .done b
  | .eof => otherwise

/-- Opens the head. -/
def openHead (b : Builder) (tag : StartTag) : Builder :=
  let b := b.insertHtml tag
  { b with head := some b.current, mode := .inHead }

/-- The rules before the head. -/
def stepBeforeHead (b : Builder) (item : Item) : Step :=
  let otherwise := Step.again (b.openHead { name := "head" })
  match item with
  | .comment content => .done (b.insertComment content)
  | .char c => if isBlank c then .done b else otherwise
  | .startTag tag =>
    if tag.name = "html" then .done (b.mergeHtml tag)
    else if tag.name = "head" then .done (b.openHead tag)
    else otherwise
  | .endTag name => if endsHeadOrPage name then otherwise else .done b
  | .eof => otherwise

/-! ### In the head -/

/-- Opens a template. -/
def openTemplate (b : Builder) (tag : StartTag) : Builder :=
  { b.addMarker.insertHtml tag with
    framesetOk := false
    mode := .inTemplate
    templateModes := .inTemplate :: b.templateModes }

/-- Closes the innermost template. -/
def closeTemplate (b : Builder) : Builder :=
  if b.hasOpen "template" then
    let b := (b.popWhile fun tag => isHtmlIn tag thoroughImpliedEnd).popThrough "template"
    let b := b.clearFormatting
    { b with templateModes := b.templateModes.tail }.resetMode
  else b

/-- The rules for tags that belong in a head wherever they stand. -/
def headContent? (b : Builder) (item : Item) : Option Builder :=
  match item with
  | .startTag tag =>
    match tag.name with
    | "base" | "basefont" | "bgsound" | "link" | "meta" => some (b.insertVoid tag)
    | "title" => some (b.insertTextElement tag (.escapable "title"))
    | "noframes" | "style" => some (b.insertTextElement tag (.raw tag.name))
    | "script" => some (b.insertTextElement tag .script)
    | "template" => some (b.openTemplate tag)
    | _ => none
  | .endTag "template" => some b.closeTemplate
  | _ => none

/-- The rules in the head. -/
def stepInHead (b : Builder) (item : Item) : Step :=
  let otherwise := Step.again { b.pop with mode := .afterHead }
  match b.headContent? item with
  | some b => .done b
  | none =>
    match item with
    | .comment content => .done (b.insertComment content)
    | .char c => if isBlank c then .done (b.insertChar c) else otherwise
    | .startTag tag =>
      match tag.name with
      | "html" => .done (b.mergeHtml tag)
      | "noscript" => .done (b.insertTextElement tag (.raw "noscript"))
      | "head" => .done b
      | _ => otherwise
    | .endTag "head" => .done { b.pop with mode := .afterHead }
    | .endTag name => if endsPage name then otherwise else .done b
    | .eof => otherwise

/-- The rules between the head and the body. -/
def stepAfterHead (b : Builder) (item : Item) : Step :=
  let otherwise := Step.again { b.insertPhantom "body" with mode := .inBody }
  match item with
  | .comment content => .done (b.insertComment content)
  | .char c => if isBlank c then .done (b.insertChar c) else otherwise
  | .startTag tag =>
    match tag.name with
    | "html" => .done (b.mergeHtml tag)
    | "body" => .done { b.insertHtml tag with framesetOk := false, mode := .inBody }
    | "frameset" => .done { b.insertHtml tag with mode := .inFrameset }
    | "head" => .done b
    | _ =>
      let head := b.head.getD 0
      match (b.push head).headContent? item with
      | some b => .done (b.removeOpen head)
      | none => otherwise
  | .endTag "template" => .done b.closeTemplate
  | .endTag name => if endsPage name then otherwise else .done b
  | .eof => otherwise

end Builder

end Html

end LiterateLinks
