import LiterateLinks.Link.Target

/-!
# Linking text

A text is taken apart at its markers and each marker is replaced by markup: a definition by an
anchor that carries its name, a paste by what it resolves to.  The result keeps the untouched
stretches of text and the replacements apart, in order.
-/

namespace LiterateLinks

/-- A stretch of a linked text. -/
inductive Segment where
  /-- Text outside markers, unchanged. -/
  | text (content : String)
  /-- The replacement of one marker. -/
  | markup (replacement : Markup)
  deriving Repr

/-- A text in which markers have been replaced. -/
structure LinkedText where
  segments : List Segment
  substitutions : Nat
  deriving Repr

namespace LinkedText

/-- Whether the text held no marker. -/
def isUnchanged (r : LinkedText) : Bool :=
  r.substitutions == 0

/-- A segment as HTML. -/
def renderSegment : Segment → String
  | .text content => Markup.escapeText content
  | .markup replacement => replacement.render

/-- The linked text as HTML. -/
def render (r : LinkedText) : String :=
  String.join (r.segments.map renderSegment)

/-- The stretch of text before a replacement or at the end, if it is not empty. -/
def stretch (text : List Char) : List Segment :=
  if text.isEmpty then [] else [.text (String.ofList text)]

/-- The text with the replacements of its markers, in order.  A text without markers stays as one
segment, even if it is empty. -/
def ofScan (scan : Scan) (replacements : List Markup) : LinkedText :=
  let replaced := (scan.hits.zip replacements).flatMap fun (hit, replacement) =>
    stretch hit.1 ++ [.markup replacement]
  let last := if replaced.isEmpty then [.text (String.ofList scan.tail)] else stretch scan.tail
  ⟨replaced ++ last, scan.hits.length⟩

end LinkedText

/-- The settings under which references are linked. -/
structure Resolution where
  delimiters : Delimiters := {}
  policy : Policy := .inPage
  deriving Repr, DecidableEq, Inhabited

/-- Settings whose marker expressions have been built. -/
structure Linker where
  policy : Policy
  markers : Markers
  deriving Repr

namespace Linker

/-- Builds the marker expressions of the settings. -/
def ofResolution (r : Resolution) : Except Delimiters.Fault Linker := do
  return ⟨r.policy, ← Markers.ofDelimiters r.delimiters⟩

/-- The texts of the markers of a scan, in order. -/
def markerTexts (scan : Scan) : List MarkerText :=
  scan.hits.map fun hit => MarkerText.ofMatch hit.2

/-- The anchor that replaces a definition. -/
def anchor (definition : MarkerText) : Markup :=
  .element "a" [("name", definition.name)]
    [.element "span" [("class", "lpdefine")] [.text definition.definitionLabel]]

/-- Replaces the definitions in a text by anchors and records their names if the policy needs
them. -/
def linkDefinitions (linker : Linker) (symbols : SymbolTable) (text : String) :
    LinkedText × SymbolTable :=
  let scan := linker.markers.definition.scan text.toList
  let definitions := markerTexts scan
  let symbols :=
    if linker.policy.collects then definitions.foldl (fun table d => table.insert d.name) symbols
    else symbols
  (LinkedText.ofScan scan (definitions.map anchor), symbols)

/-- Replaces the pastes in a text by links. -/
def linkPastes (linker : Linker) (symbols : SymbolTable) (text : String) : Logged LinkedText := do
  let scan := linker.markers.paste.scan text.toList
  let replacements ← (markerTexts scan).mapM (linker.policy.resolve symbols)
  return LinkedText.ofScan scan replacements

end Linker

end LiterateLinks
