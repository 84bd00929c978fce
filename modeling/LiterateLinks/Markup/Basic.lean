/-!
# Generated markup

What replaces a marker is built as a small tree of elements, so that one description can be written
out as text or grafted into a document.  Writing it out escapes text and attribute values, and
nothing else: tags and attribute names are fixed words of this library.
-/

namespace LiterateLinks

/-- A piece of generated markup. -/
inductive Markup where
  | text (content : String)
  | element (tag : String) (attributes : List (String × String)) (children : List Markup)
  deriving Repr, Inhabited

namespace Markup

/-- The hyperlink `<a href="href">text</a>`. -/
def link (href text : String) : Markup :=
  .element "a" [("href", href)] [.text text]

/-- A character of text, with the three that could be taken for markup written as references. -/
def escapeTextChar : Char → List Char
  | '&' => "&amp;".toList
  | '<' => "&lt;".toList
  | '>' => "&gt;".toList
  | c => [c]

/-- A character of a quoted attribute value; the quotation mark is written as a reference too. -/
def escapeAttributeChar : Char → List Char
  | '"' => "&quot;".toList
  | c => escapeTextChar c

/-- Text as it is written between tags. -/
def escapeText (text : String) : String :=
  String.ofList (text.toList.flatMap escapeTextChar)

/-- An attribute value as it is written between quotation marks. -/
def escapeAttribute (value : String) : String :=
  String.ofList (value.toList.flatMap escapeAttributeChar)

/-- The attributes of a start tag, each with a space in front. -/
def renderAttributes : List (String × String) → String
  | [] => ""
  | (name, value) :: rest =>
    " " ++ name ++ "=\"" ++ escapeAttribute value ++ "\"" ++ renderAttributes rest

mutual

/-- The markup written out. -/
def render : Markup → String
  | .text content => escapeText content
  | .element tag attributes children =>
    "<" ++ tag ++ renderAttributes attributes ++ ">" ++ renderAll children ++ "</" ++ tag ++ ">"

/-- A list of siblings written out. -/
def renderAll : List Markup → String
  | [] => ""
  | m :: ms => m.render ++ renderAll ms

end

end Markup

end LiterateLinks
