import LiterateLinks.Document.Node

/-!
# Writing documents

A document is written as HTML.  In text the ampersand, the angle brackets and the no-break space are
written as references, in attribute values the ampersand, the quotation mark and the no-break space.
The text of elements such as `script` is written as it is.  Void elements have no end tag, and tags
below one are left out, but text and comments there are still written.  Template contents are not
written.
-/

namespace LiterateLinks

namespace Document

/-- The elements without an end tag. -/
def voidElements : List String :=
  ["area", "base", "basefont", "bgsound", "br", "col", "embed", "frame", "hr", "img", "input",
    "keygen", "link", "meta", "param", "source", "track", "wbr"]

/-- The elements whose text is written without references. -/
def rawTextElements : List String :=
  ["style", "script", "xmp", "iframe", "noembed", "noframes", "plaintext", "noscript"]

/-- A character of text. -/
def writeTextChar : Char → List Char
  | '&' => "&amp;".toList
  | '<' => "&lt;".toList
  | '>' => "&gt;".toList
  | '\u00a0' => "&nbsp;".toList
  | c => [c]

/-- A character of an attribute value. -/
def writeAttributeChar : Char → List Char
  | '&' => "&amp;".toList
  | '"' => "&quot;".toList
  | '\u00a0' => "&nbsp;".toList
  | c => [c]

/-- A qualifier with the colon that follows it. -/
def writeQualifier (a : Attribute) : String :=
  match a.qualifier with
  | .plain => ""
  | .xlink => "xlink:"
  | .xml => "xml:"
  | .xmlns => if a.name = "xmlns" then "" else "xmlns:"

/-- The attributes of a start tag, each with a space in front. -/
def writeAttributes : List Attribute → String
  | [] => ""
  | a :: rest =>
    " " ++ writeQualifier a ++ a.name ++ "=\"" ++
      String.ofList (a.value.toList.flatMap writeAttributeChar) ++ "\"" ++ writeAttributes rest

/-- What writing a node depends on: whether the text of its parent is raw, and whether some element
around it is void, so that tags are left out. -/
structure Surroundings where
  rawText : Bool := false
  untagged : Bool := false

/-- The surroundings of the children of an element. -/
def Surroundings.enter (around : Surroundings) (tag : Tag) : Surroundings :=
  { rawText := tag.vocabulary = .html && rawTextElements.contains tag.name
    untagged := around.untagged || (tag.vocabulary = .html && voidElements.contains tag.name) }

mutual

/-- A node written as HTML. -/
def writeNode (around : Surroundings) : Node → String
  | .doctype name => "<!DOCTYPE " ++ name ++ ">"
  | .comment content => "<!--" ++ content ++ "-->"
  | .text content =>
    if around.rawText then content else String.ofList (content.toList.flatMap writeTextChar)
  | .element tag _ children =>
    let inside := around.enter tag
    (if around.untagged then "" else "<" ++ tag.name ++ writeAttributes tag.attributes ++ ">") ++
      writeNodes inside children ++ (if inside.untagged then "" else "</" ++ tag.name ++ ">")

/-- Siblings written as HTML. -/
def writeNodes (around : Surroundings) : List Node → String
  | [] => ""
  | n :: ns => writeNode around n ++ writeNodes around ns

end

/-- The document as HTML source. -/
def serialize (document : Document) : String :=
  writeNodes {} document.children

end Document

end LiterateLinks
