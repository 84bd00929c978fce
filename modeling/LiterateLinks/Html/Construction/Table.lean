import LiterateLinks.Html.Construction.Body

/-!
# Tables

The rules inside tables.  Each part of a table closes the parts that cannot contain it and supplies
the parts around it that were left out.  Content that does not belong in a table is put in front of
it.
-/

namespace LiterateLinks

namespace Html

namespace Builder

/-- Applies the rules of the body with misplaced content put in front of the table. -/
def stepFostered (b : Builder) (item : Item) : Step :=
  ({ b with fostering := true }.stepInBody item).map fun b => { b with fostering := false }

/-- The parts that the content of a table can be closed to. -/
def closeToTable (b : Builder) : Builder :=
  b.popTo ["table", "template", "html"]

/-- Closes the content of a table section. -/
def closeToSection (b : Builder) : Builder :=
  b.popTo ["tbody", "tfoot", "thead", "template", "html"]

/-- Closes the content of a row. -/
def closeToRow (b : Builder) : Builder :=
  b.popTo ["tr", "template", "html"]

/-- Whether an HTML element of that name is open in the table. -/
def inTableScope (b : Builder) (name : String) : Bool :=
  b.nameInScope tableScope name

/-- Inserts a form that can have no content in a table. -/
def insertTableForm (b : Builder) (tag : StartTag) : Builder :=
  if b.hasOpen "template" || b.form.isSome then b
  else
    let b := b.insertHtml tag
    { b with form := some b.current }.pop

/-- The rules in a table. -/
def stepInTable (b : Builder) (item : Item) : Step :=
  match item with
  | .char _ =>
    if b.currentIn fosterParts then
      .again { b with tableText := [], returnMode := b.mode, mode := .inTableText }
    else b.stepFostered item
  | .comment content => .done (b.insertComment content)
  | .startTag tag =>
    match tag.name with
    | "caption" => .done { b.closeToTable.addMarker.insertHtml tag with mode := .inCaption }
    | "colgroup" => .done { b.closeToTable.insertHtml tag with mode := .inColumnGroup }
    | "col" => .again { b.closeToTable.insertPhantom "colgroup" with mode := .inColumnGroup }
    | "tbody" | "tfoot" | "thead" =>
      .done { b.closeToTable.insertHtml tag with mode := .inTableBody }
    | "td" | "th" | "tr" =>
      .again { b.closeToTable.insertPhantom "tbody" with mode := .inTableBody }
    | "table" =>
      if b.inTableScope "table" then .again (b.popThrough "table").resetMode else .done b
    | "style" | "script" | "template" => .done ((b.headContent? item).getD b)
    | "input" => if isHidden tag then .done (b.insertVoid tag) else b.stepFostered item
    | "form" => .done (b.insertTableForm tag)
    | _ => b.stepFostered item
  | .endTag name =>
    match name with
    | "table" => .done (if b.inTableScope "table" then (b.popThrough "table").resetMode else b)
    | "body" | "caption" | "col" | "colgroup" | "html" | "tbody" | "td" | "tfoot" | "th" | "thead"
    | "tr" => .done b
    | "template" => .done b.closeTemplate
    | _ => b.stepFostered item
  | .eof => b.stepInBody item

/-- Puts the text collected in a table in its place: blank text in the table, any other text in
front of it. -/
def flushTableText (b : Builder) : Builder :=
  let text := b.tableText.reverse
  let b := { b with tableText := [], mode := b.returnMode }
  if text.all isBlank then text.foldl insertChar b
  else
    text.foldl (fun b c =>
      match b.stepFostered (.char c) with
      | .done b => b
      | .again b => b) b

/-- The rules in the text of a table. -/
def stepInTableText (b : Builder) (item : Item) : Step :=
  match item with
  | .char c => .done (if c = '\x00' then b else { b with tableText := c :: b.tableText })
  | _ => .again b.flushTableText

/-- The rules in a caption. -/
def stepInCaption (b : Builder) (item : Item) : Step :=
  let close : Builder :=
    { (b.closeImplied.popThrough "caption").clearFormatting with mode := .inTable }
  let isOpen := b.inTableScope "caption"
  match item with
  | .startTag tag =>
    match tag.name with
    | "caption" | "col" | "colgroup" | "tbody" | "td" | "tfoot" | "th" | "thead" | "tr" =>
      if isOpen then .again close else .done b
    | _ => b.stepInBody item
  | .endTag name =>
    match name with
    | "caption" => .done (if isOpen then close else b)
    | "table" => if isOpen then .again close else .done b
    | "body" | "col" | "colgroup" | "html" | "tbody" | "td" | "tfoot" | "th" | "thead" | "tr" =>
      .done b
    | _ => b.stepInBody item
  | _ => b.stepInBody item

/-- The rules in a column group. -/
def stepInColumnGroup (b : Builder) (item : Item) : Step :=
  let otherwise : Step :=
    if b.currentIs "colgroup" then .again { b.pop with mode := .inTable } else .done b
  match item with
  | .char c => if isBlank c then .done (b.insertChar c) else otherwise
  | .comment content => .done (b.insertComment content)
  | .startTag tag =>
    match tag.name with
    | "html" => .done (b.mergeHtml tag)
    | "col" => .done (b.insertVoid tag)
    | "template" => .done (b.openTemplate tag)
    | _ => otherwise
  | .endTag name =>
    match name with
    | "colgroup" =>
      .done (if b.currentIs "colgroup" then { b.pop with mode := .inTable } else b)
    | "col" => .done b
    | "template" => .done b.closeTemplate
    | _ => otherwise
  | .eof => b.stepInBody item

/-- The rules in a table section. -/
def stepInTableBody (b : Builder) (item : Item) : Step :=
  let leave : Step :=
    if b.inScope tableScope fun node => isHtmlIn (b.tag node) ["table", "tbody", "tfoot"] then
      .again { b.closeToSection.pop with mode := .inTable }
    else .done b
  match item with
  | .startTag tag =>
    match tag.name with
    | "tr" => .done { b.closeToSection.insertHtml tag with mode := .inRow }
    | "th" | "td" => .again { b.closeToSection.insertPhantom "tr" with mode := .inRow }
    | "caption" | "col" | "colgroup" | "tbody" | "tfoot" | "thead" => leave
    | _ => b.stepInTable item
  | .endTag name =>
    match name with
    | "tbody" | "tfoot" | "thead" =>
      .done (if b.inTableScope name then { b.closeToSection.pop with mode := .inTable } else b)
    | "table" => leave
    | "body" | "caption" | "col" | "colgroup" | "html" | "td" | "th" | "tr" => .done b
    | _ => b.stepInTable item
  | _ => b.stepInTable item

/-- The rules in a row. -/
def stepInRow (b : Builder) (item : Item) : Step :=
  let close : Builder := { b.closeToRow.pop with mode := .inTableBody }
  let leave : Step := if b.inTableScope "tr" then .again close else .done b
  match item with
  | .startTag tag =>
    match tag.name with
    | "th" | "td" => .done { (b.closeToRow.insertHtml tag).addMarker with mode := .inCell }
    | "caption" | "col" | "colgroup" | "tbody" | "tfoot" | "thead" | "tr" => leave
    | _ => b.stepInTable item
  | .endTag name =>
    match name with
    | "tr" => .done (if b.inTableScope "tr" then close else b)
    | "table" => leave
    | "tbody" | "tfoot" | "thead" => if b.inTableScope name then leave else .done b
    | "body" | "caption" | "col" | "colgroup" | "html" | "td" | "th" => .done b
    | _ => b.stepInTable item
  | _ => b.stepInTable item

/-- Closes the open cell. -/
def closeCell (b : Builder) : Builder :=
  { (b.closeImplied.popThroughIn ["td", "th"]).clearFormatting with mode := .inRow }

/-- The rules in a cell. -/
def stepInCell (b : Builder) (item : Item) : Step :=
  match item with
  | .startTag tag =>
    match tag.name with
    | "caption" | "col" | "colgroup" | "tbody" | "td" | "tfoot" | "th" | "thead" | "tr" =>
      if b.inScope tableScope fun node => isHtmlIn (b.tag node) ["td", "th"] then .again b.closeCell
      else .done b
    | _ => b.stepInBody item
  | .endTag name =>
    match name with
    | "td" | "th" =>
      .done (if b.inTableScope name then
        { (b.closeImplied.popThrough name).clearFormatting with mode := .inRow } else b)
    | "body" | "caption" | "col" | "colgroup" | "html" => .done b
    | "table" | "tbody" | "tfoot" | "thead" | "tr" =>
      if b.inTableScope name then .again b.closeCell else .done b
    | _ => b.stepInBody item
  | _ => b.stepInBody item

/-! ### Selections -/

/-- Closes the open selection. -/
def closeSelect (b : Builder) : Builder :=
  (b.popThrough "select").resetMode

/-- Closes the innermost element if it is an option. -/
def closeOption (b : Builder) : Builder :=
  if b.currentIs "option" then b.pop else b

/-- Closes the innermost element if it is a group of options. -/
def closeGroup (b : Builder) : Builder :=
  if b.currentIs "optgroup" then b.pop else b

/-- The rules in a selection. -/
def stepInSelect (b : Builder) (item : Item) : Step :=
  let isOpen := b.nameInScope selectScope "select"
  match item with
  | .char c => .done (if c = '\x00' then b else b.insertChar c)
  | .comment content => .done (b.insertComment content)
  | .startTag tag =>
    match tag.name with
    | "html" => .done (b.mergeHtml tag)
    | "option" => .done (b.closeOption.insertHtml tag)
    | "optgroup" => .done (b.closeOption.closeGroup.insertHtml tag)
    | "hr" => .done (b.closeOption.closeGroup.insertVoid tag)
    | "select" => .done (if isOpen then b.closeSelect else b)
    | "input" | "keygen" | "textarea" => if isOpen then .again b.closeSelect else .done b
    | "script" | "template" => .done ((b.headContent? item).getD b)
    | _ => .done b
  | .endTag name =>
    match name with
    | "optgroup" =>
      let outer := b.stack.tail.headD 0
      let b := if b.currentIs "option" && isHtml (b.tag outer) "optgroup" then b.pop else b
      .done b.closeGroup
    | "option" => .done b.closeOption
    | "select" => .done (if isOpen then b.closeSelect else b)
    | "template" => .done b.closeTemplate
    | _ => .done b
  | .eof => b.stepInBody item

/-- The rules in a selection inside a table. -/
def stepInSelectInTable (b : Builder) (item : Item) : Step :=
  let tableParts := ["caption", "table", "tbody", "tfoot", "thead", "tr", "td", "th"]
  match item with
  | .startTag tag =>
    if tableParts.contains tag.name then .again b.closeSelect else b.stepInSelect item
  | .endTag name =>
    if tableParts.contains name then
      if b.inTableScope name then .again b.closeSelect else .done b
    else b.stepInSelect item
  | _ => b.stepInSelect item

end Builder

end Html

end LiterateLinks
