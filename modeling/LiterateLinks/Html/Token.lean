import LiterateLinks.Document.Node

/-!
# Tokens of a page

The source of a page is a sequence of doctypes, tags, comments and text.  How text is read depends
on the element it stands in.
-/

namespace LiterateLinks

namespace Html

/-- A doctype.  `defective` says that it breaks off or is malformed. -/
structure Doctype where
  name : Option String := none
  publicId : Option String := none
  systemId : Option String := none
  defective : Bool := false
  deriving Repr, DecidableEq, Inhabited

/-- A start tag. -/
structure StartTag where
  name : String
  attributes : List Attribute := []
  selfClosing : Bool := false
  deriving Repr, DecidableEq, Inhabited

/-- A piece of the source of a page. -/
inductive Token where
  | doctype (d : Doctype)
  | startTag (tag : StartTag)
  | endTag (name : String)
  | comment (content : String)
  /-- Text.  `broken` says that it opens with a numeric reference that lacks its semicolon. -/
  | text (content : List Char) (broken : Bool := false)
  | eof
  deriving Repr, DecidableEq, Inhabited

/-- How text is read. -/
inductive TextKind where
  /-- With tags and references. -/
  | markup
  /-- With references, up to the end tag of the named element. -/
  | escapable (element : String)
  /-- As it stands, up to the end tag of the named element. -/
  | raw (element : String)
  /-- As a script, which may hide its own end tag inside comments. -/
  | script
  /-- As it stands, up to the end of the source. -/
  | plain
  deriving Repr, DecidableEq, Inhabited

end Html

end LiterateLinks
