import LiterateLinks.Html.Construction.Basic

/-!
# Elements of embedded vocabularies

Names in a page are written in any case, but SVG and MathML have names in mixed case and attributes
with qualifiers.  The tags of embedded elements are given their proper names here.
-/

namespace LiterateLinks

namespace Html

namespace Embedded

/-- The SVG elements with upper case letters. -/
def svgNames : List String :=
  ["altGlyph", "altGlyphDef", "altGlyphItem", "animateColor", "animateMotion", "animateTransform",
    "clipPath", "feBlend", "feColorMatrix", "feComponentTransfer", "feComposite",
    "feConvolveMatrix", "feDiffuseLighting", "feDisplacementMap", "feDistantLight", "feDropShadow",
    "feFlood", "feFuncA", "feFuncB", "feFuncG", "feFuncR", "feGaussianBlur", "feImage", "feMerge",
    "feMergeNode", "feMorphology", "feOffset", "fePointLight", "feSpecularLighting", "feSpotLight",
    "feTile", "feTurbulence", "foreignObject", "glyphRef", "linearGradient", "radialGradient",
    "textPath"]

/-- The SVG attributes with upper case letters. -/
def svgAttributeNames : List String :=
  ["attributeName", "attributeType", "baseFrequency", "baseProfile", "calcMode", "clipPathUnits",
    "diffuseConstant", "edgeMode", "filterUnits", "glyphRef", "gradientTransform", "gradientUnits",
    "kernelMatrix", "kernelUnitLength", "keyPoints", "keySplines", "keyTimes", "lengthAdjust",
    "limitingConeAngle", "markerHeight", "markerUnits", "markerWidth", "maskContentUnits",
    "maskUnits", "numOctaves", "pathLength", "patternContentUnits", "patternTransform",
    "patternUnits", "pointsAtX", "pointsAtY", "pointsAtZ", "preserveAlpha", "preserveAspectRatio",
    "primitiveUnits", "refX", "refY", "repeatCount", "repeatDur", "requiredExtensions",
    "requiredFeatures", "specularConstant", "specularExponent", "spreadMethod", "startOffset",
    "stdDeviation", "stitchTiles", "surfaceScale", "systemLanguage", "tableValues", "targetX",
    "targetY", "textLength", "viewBox", "viewTarget", "xChannelSelector", "yChannelSelector",
    "zoomAndPan"]

/-- The attributes that carry a qualifier, as they are written, with the name after it. -/
def qualifiedNames : List (String × Qualifier × String) :=
  [("xlink:actuate", .xlink, "actuate"), ("xlink:arcrole", .xlink, "arcrole"),
    ("xlink:href", .xlink, "href"), ("xlink:role", .xlink, "role"), ("xlink:show", .xlink, "show"),
    ("xlink:title", .xlink, "title"), ("xlink:type", .xlink, "type"), ("xml:lang", .xml, "lang"),
    ("xml:space", .xml, "space"), ("xmlns", .xmlns, "xmlns"), ("xmlns:xlink", .xmlns, "xlink")]

/-- The name of a list that is equal to the given lower case name but for case. -/
def restoreCase (names : List String) (name : String) : String :=
  (names.find? fun n => String.ofList (n.toList.map Char.toLower) == name).getD name

/-- The proper name of an attribute without a qualifier. -/
def attributeName (vocabulary : Vocabulary) (name : String) : String :=
  match vocabulary with
  | .html => name
  | .svg => restoreCase svgAttributeNames name
  | .mathml => restoreCase ["definitionURL"] name

/-- An attribute of an embedded element. -/
def restoreAttribute (vocabulary : Vocabulary) (a : Attribute) : Attribute :=
  let a := { a with name := attributeName vocabulary a.name }
  match qualifiedNames.lookup a.name with
  | some (qualifier, name) => { a with name, qualifier }
  | none => a

/-- The tag of an embedded element. -/
def tag (vocabulary : Vocabulary) (t : StartTag) : Tag :=
  { name := if vocabulary = .svg then restoreCase svgNames t.name else t.name
    attributes := t.attributes.map (restoreAttribute vocabulary)
    vocabulary }

end Embedded

/-- Inserts an element of an embedded vocabulary, open unless its tag closes itself. -/
def Builder.insertEmbedded (b : Builder) (vocabulary : Vocabulary) (tag : StartTag) : Builder :=
  let element := Embedded.tag vocabulary tag
  if tag.selfClosing then b.insertClosed element else b.insertOpen element

end Html

end LiterateLinks
