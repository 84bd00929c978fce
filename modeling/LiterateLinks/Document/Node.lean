import LiterateLinks.Markup.Basic

/-!
# Document trees

A document is a list of nodes: a doctype, comments, text and elements.  Elements belong to one of
three vocabularies, and their attributes may carry one of a few fixed qualifiers.  The contents of a
template element that was read from a source stand beside its children, because they are not part of
the page: no walk over the children of a tree meets them.
-/

namespace LiterateLinks

/-- The vocabulary of an element. -/
inductive Vocabulary where
  | html
  | svg
  | mathml
  deriving Repr, DecidableEq, Inhabited

/-- The qualifier of an attribute name. -/
inductive Qualifier where
  | plain
  | xlink
  | xml
  | xmlns
  deriving Repr, DecidableEq, Inhabited

/-- An attribute of an element. -/
structure Attribute where
  name : String
  value : String
  qualifier : Qualifier := .plain
  deriving Repr, DecidableEq, Inhabited

/-- The start tag of an element: its vocabulary, its name and its attributes. -/
structure Tag where
  name : String
  attributes : List Attribute := []
  vocabulary : Vocabulary := .html
  deriving Repr, DecidableEq, Inhabited

/-- The value of the first attribute of that name, whatever its qualifier. -/
def Tag.get? (tag : Tag) (name : String) : Option String :=
  (tag.attributes.find? (·.name == name)).map (·.value)

/-- A node of a document. -/
inductive Node where
  | doctype (name : String)
  | comment (content : String)
  | text (content : String)
  /-- An element, with its template contents if it was read as a template. -/
  | element (tag : Tag) (contents : Option (List Node)) (children : List Node)
  deriving Repr, Inhabited

/-- A document: the nodes at its top. -/
structure Document where
  children : List Node
  deriving Repr, Inhabited

namespace Node

/-- An element of a page, without template contents. -/
def ofTag (name : String) (attributes : List (String × String)) (children : List Node) : Node :=
  .element { name, attributes := attributes.map fun (name, value) => { name, value } } none children

mutual

/-- Generated markup as nodes of a page. -/
def ofMarkup : Markup → Node
  | .text content => .text content
  | .element tag attributes children => ofTag tag attributes (ofMarkups children)

/-- A list of generated siblings as nodes. -/
def ofMarkups : List Markup → List Node
  | [] => []
  | m :: ms => ofMarkup m :: ofMarkups ms

end

mutual

/-- The tags of the elements with the given name at or below a node, in document order. -/
def tagsNamed (name : String) : Node → List Tag
  | .element tag _ children =>
    if tag.name = name then tag :: tagsNamedIn name children else tagsNamedIn name children
  | _ => []

/-- The tags of the elements with the given name at or below some node of a list. -/
def tagsNamedIn (name : String) : List Node → List Tag
  | [] => []
  | n :: ns => tagsNamed name n ++ tagsNamedIn name ns

end

mutual

/-- The first element with the given name at or below a node, depth first. -/
def findNamed? (name : String) : Node → Option Node
  | .element tag contents children =>
    if tag.name = name then some (.element tag contents children) else findNamedIn? name children
  | _ => none

/-- The first element with the given name at or below the nodes of a list. -/
def findNamedIn? (name : String) : List Node → Option Node
  | [] => none
  | n :: ns =>
    match findNamed? name n with
    | some found => some found
    | none => findNamedIn? name ns

end

mutual

/-- Applies `change` to the children of the first element with the given name at or below a node;
`none` when there is no such element. -/
def changeNamed? (name : String) (change : List Node → List Node) : Node → Option Node
  | .element tag contents children =>
    if tag.name = name then some (.element tag contents (change children))
    else (changeNamedIn? name change children).map (.element tag contents ·)
  | _ => none

/-- Applies `change` to the children of the first element with the given name in a list of nodes. -/
def changeNamedIn? (name : String) (change : List Node → List Node) : List Node → Option (List Node)
  | [] => none
  | n :: ns =>
    match changeNamed? name change n with
    | some changed => some (changed :: ns)
    | none => (changeNamedIn? name change ns).map (n :: ·)

end

end Node

end LiterateLinks
