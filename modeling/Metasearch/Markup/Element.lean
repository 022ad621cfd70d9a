/-
Elements, and the classes of elements that the rules for building a tree speak of. Elements of
drawings and formulas inside a page have a namespace of their own, and their names and
attributes are spelled as those languages spell them.
-/

namespace Metasearch.Markup

/-- The language an element belongs to. -/
inductive Namespace
  | html
  | svg
  | mathml
  deriving DecidableEq, Repr, Inhabited

/-- An attribute; `space` is empty for all but a few attributes of other languages. -/
structure Attribute where
  space : String
  name : String
  value : String
  deriving DecidableEq, Repr, Inhabited

/-- An element without its content. -/
structure Element where
  space : Namespace
  name : String
  attributes : List Attribute
  deriving DecidableEq, Repr, Inhabited

namespace Element

/-- The value of an attribute of no namespace. -/
def attribute? (element : Element) (name : String) : Option String :=
  (element.attributes.find? fun attr => attr.space == "" && attr.name == name).map (·.value)

/-- An element of HTML with a name. -/
def isHtml (element : Element) (name : String) : Bool :=
  element.space == .html && element.name == name

/-- An element of HTML with one of some names. -/
def isHtmlIn (names : List String) (element : Element) : Bool :=
  element.space == .html && names.contains element.name

/-- An element of formulas whose content is text of the page. -/
def holdsFormulaText (element : Element) : Bool :=
  element.space == .mathml && ["mi", "mo", "mn", "ms", "mtext"].contains element.name

/-- An element of drawings whose content is part of the page. -/
def holdsPage (element : Element) : Bool :=
  element.space == .svg && ["foreignObject", "desc", "title"].contains element.name

/-! ### Classes of elements -/

/-- The elements whose boundaries a look through the open elements does not cross. -/
def isScope (element : Element) : Bool :=
  element.isHtmlIn ["applet", "caption", "html", "table", "td", "th", "marquee", "object",
    "template"] || element.holdsFormulaText || element.holdsPage

/-- Bounds the scope that the items of lists are looked for in. -/
def isListScope (element : Element) : Bool :=
  element.isScope || element.isHtmlIn ["ol", "ul"]

/-- Bounds the scope that paragraphs are looked for in. -/
def isButtonScope (element : Element) : Bool :=
  element.isScope || element.isHtml "button"

/-- Bounds the scope that the parts of tables are looked for in. -/
def isTableScope (element : Element) : Bool :=
  element.isHtmlIn ["html", "table", "template"]

/-- Bounds the scope that a choice is looked for in. -/
def isSelectScope (element : Element) : Bool :=
  !element.isHtmlIn ["optgroup", "option"]

/-- A heading of any level. -/
def isHeading (element : Element) : Bool :=
  element.isHtmlIn ["h1", "h2", "h3", "h4", "h5", "h6"]

/-- The elements whose end need not be written. -/
def hasImpliedEnd (element : Element) : Bool :=
  element.isHtmlIn ["dd", "dt", "li", "option", "optgroup", "p", "rb", "rp", "rt", "rtc"]

/-- The elements whose end need not be written inside a template. -/
def hasImpliedEndInTemplate (element : Element) : Bool :=
  element.hasImpliedEnd ||
    element.isHtmlIn ["caption", "colgroup", "tbody", "td", "tfoot", "th", "thead", "tr"]

/-- The elements in which misplaced content is put in front of the table. -/
def isTablePart (element : Element) : Bool :=
  element.isHtmlIn ["table", "tbody", "tfoot", "thead", "tr"]

/-- The elements that are neither plain running text nor markers of it. -/
def isSpecial (element : Element) : Bool :=
  element.isHtmlIn ["address", "applet", "area", "article", "aside", "base", "basefont", "bgsound",
    "blockquote", "body", "br", "button", "caption", "center", "col", "colgroup", "dd", "details",
    "dir", "div", "dl", "dt", "embed", "fieldset", "figcaption", "figure", "footer", "form",
    "frame", "frameset", "h1", "h2", "h3", "h4", "h5", "h6", "head", "header", "hgroup", "hr",
    "html", "iframe", "img", "input", "isindex", "li", "link", "listing", "main", "marquee",
    "menu", "meta", "nav", "noembed", "noframes", "noscript", "object", "ol", "p", "param",
    "plaintext", "pre", "script", "section", "select", "source", "style", "summary", "table",
    "tbody", "td", "template", "textarea", "tfoot", "th", "thead", "title", "tr", "track", "ul",
    "wbr", "xmp"]

end Element

/-! ### Spelling in other languages -/

/-- The elements of drawings whose names have capitals. -/
def svgNames : List String :=
  ["altGlyph", "altGlyphDef", "altGlyphItem", "animateColor", "animateMotion", "animateTransform",
   "clipPath", "feBlend", "feColorMatrix", "feComponentTransfer", "feComposite",
   "feConvolveMatrix", "feDiffuseLighting", "feDisplacementMap", "feDistantLight",
   "feDropShadow", "feFlood", "feFuncA", "feFuncB", "feFuncG", "feFuncR", "feGaussianBlur",
   "feImage", "feMerge", "feMergeNode", "feMorphology", "feOffset", "fePointLight",
   "feSpecularLighting", "feSpotLight", "feTile", "feTurbulence", "foreignObject", "glyphRef",
   "linearGradient", "radialGradient", "textPath"]

/-- The attributes of drawings whose names have capitals. -/
def svgAttributes : List String :=
  ["attributeName", "attributeType", "baseFrequency", "baseProfile", "calcMode", "clipPathUnits",
   "diffuseConstant", "edgeMode", "filterUnits", "glyphRef", "gradientTransform",
   "gradientUnits", "kernelMatrix", "kernelUnitLength", "keyPoints", "keySplines", "keyTimes",
   "lengthAdjust", "limitingConeAngle", "markerHeight", "markerUnits", "markerWidth",
   "maskContentUnits", "maskUnits", "numOctaves", "pathLength", "patternContentUnits",
   "patternTransform", "patternUnits", "pointsAtX", "pointsAtY", "pointsAtZ", "preserveAlpha",
   "preserveAspectRatio", "primitiveUnits", "refX", "refY", "repeatCount", "repeatDur",
   "requiredExtensions", "requiredFeatures", "specularConstant", "specularExponent",
   "spreadMethod", "startOffset", "stdDeviation", "stitchTiles", "surfaceScale",
   "systemLanguage", "tableValues", "targetX", "targetY", "textLength", "viewBox", "viewTarget",
   "xChannelSelector", "yChannelSelector", "zoomAndPan"]

/-- The spelling of a lower-case name. -/
def spelled (names : List String) (name : String) : String :=
  (names.find? fun proper => proper.map Char.toLower == name).getD name

/-- The attributes that have a namespace when they stand in another language. -/
def spacedAttribute (name : String) : String × String :=
  if name == "xmlns" then ("xmlns", "xmlns")
  else if name == "xmlns:xlink" then ("xmlns", "xlink")
  else if name == "xml:lang" then ("xml", "lang")
  else if name == "xml:space" then ("xml", "space")
  else if ["xlink:actuate", "xlink:arcrole", "xlink:href", "xlink:role", "xlink:show",
      "xlink:title", "xlink:type"].contains name then ("xlink", String.ofList (name.toList.drop 6))
  else ("", name)

/-- An attribute as the language of its element spells it. -/
def foreignAttribute (space : Namespace) (written : String × String) : Attribute :=
  let name := match space with
    | .svg => spelled svgAttributes written.1
    | .mathml => if written.1 == "definitionurl" then "definitionURL" else written.1
    | .html => written.1
  let (prefixed, name) := spacedAttribute name
  ⟨prefixed, name, written.2⟩

end Metasearch.Markup
