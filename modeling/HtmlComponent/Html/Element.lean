import HtmlComponent.Dom
import HtmlComponent.Html.Token

/-!
# Elements and their kinds

Elements belong to one of three vocabularies. The sets of names below are those that the rules of
tree construction speak of; they are names of ordinary elements unless said otherwise.
-/

namespace HtmlComponent.Html

/-- The number of a node of the tree under construction. -/
abbrev NodeId : Type := Nat

inductive Space where
  | html
  | math
  | svg
  deriving DecidableEq

/-- An element of the tree under construction, with the place of a template's contents. -/
structure Element where
  id : NodeId
  space : Space
  name : String
  attributes : List DomAttribute
  contents : Option NodeId

namespace Element

def isNamed (e : Element) (name : String) : Bool :=
  e.space == .html && e.name == name

def isOneOf (e : Element) (names : List String) : Bool :=
  e.space == .html && names.contains e.name

/-- Elements of formulas that hold ordinary text. -/
def isMathText (e : Element) : Bool :=
  e.space == .math && ["mi", "mo", "mn", "ms", "mtext"].contains e.name

/-- Elements of drawings that hold ordinary markup. -/
def isSvgMarkup (e : Element) : Bool :=
  e.space == .svg && ["foreignObject", "desc", "title"].contains e.name

/-- Annotations of formulas that say they hold ordinary markup. -/
def isMarkupNote (e : Element) : Bool :=
  e.attributes.any fun a => a.qualifier.isNone && a.localName == "encoding" &&
    ["text/html", "application/xhtml+xml"].contains (asciiLowerString a.value)

def isSpecial (e : Element) : Bool :=
  e.isOneOf
    ["address", "applet", "area", "article", "aside", "base", "basefont", "bgsound", "blockquote",
     "body", "br", "button", "caption", "center", "col", "colgroup", "dd", "details", "dir", "div",
     "dl", "dt", "embed", "fieldset", "figcaption", "figure", "footer", "form", "frame", "frameset",
     "h1", "h2", "h3", "h4", "h5", "h6", "head", "header", "hgroup", "hr", "html", "iframe", "img",
     "input", "isindex", "li", "link", "listing", "main", "marquee", "menu", "meta", "nav",
     "noembed", "noframes", "noscript", "object", "ol", "p", "param", "plaintext", "pre", "script",
     "section", "select", "source", "style", "summary", "table", "tbody", "td", "template",
     "textarea", "tfoot", "th", "thead", "title", "tr", "track", "ul", "wbr", "xmp"]

/-! ## Where a search through the open elements stops -/

def endsScope (e : Element) : Bool :=
  e.isOneOf ["applet", "caption", "html", "table", "td", "th", "marquee", "object", "template"] ||
    e.isMathText || e.isSvgMarkup

def endsListScope (e : Element) : Bool :=
  e.endsScope || e.isOneOf ["ol", "ul"]

def endsButtonScope (e : Element) : Bool :=
  e.endsScope || e.isNamed "button"

def endsTableScope (e : Element) : Bool :=
  e.isOneOf ["html", "table", "template"]

def endsSelectScope (e : Element) : Bool :=
  !e.isOneOf ["optgroup", "option"]

def isTableBodyContext (e : Element) : Bool :=
  e.isOneOf ["tbody", "tfoot", "thead", "template", "html"]

def isRowContext (e : Element) : Bool :=
  e.isOneOf ["tr", "template", "html"]

/-- Elements that no text may stand in directly. -/
def isTablePart (e : Element) : Bool :=
  e.isOneOf ["table", "tbody", "tfoot", "thead", "tr"]

/-! ## Elements whose end tag may be left out -/

def impliedNames : List String :=
  ["dd", "dt", "li", "option", "optgroup", "p", "rb", "rp", "rt", "rtc"]

def thoroughlyImpliedNames : List String :=
  impliedNames ++ ["caption", "colgroup", "tbody", "td", "tfoot", "th", "thead", "tr"]

end Element

def headingNames : List String :=
  ["h1", "h2", "h3", "h4", "h5", "h6"]

/-- Elements that end an open paragraph. -/
def blockNames : List String :=
  ["address", "article", "aside", "blockquote", "center", "details", "dialog", "dir", "div", "dl",
   "fieldset", "figcaption", "figure", "footer", "header", "hgroup", "main", "menu", "nav", "ol",
   "p", "search", "section", "summary", "ul"]

/-- Elements whose end tag closes all that is open within them. -/
def closingBlockNames : List String :=
  ["address", "article", "aside", "blockquote", "button", "center", "details", "dialog", "dir",
   "div", "dl", "fieldset", "figcaption", "figure", "footer", "header", "hgroup", "listing", "main",
   "menu", "nav", "ol", "pre", "search", "section", "summary", "ul"]

/-- Elements that go on in the next block when their block ends. -/
def formattingNames : List String :=
  ["b", "big", "code", "em", "font", "i", "s", "small", "strike", "strong", "tt", "u"]

/-- Elements that the rules for the head of a document deal with, wherever they stand. -/
def headNames : List String :=
  ["base", "basefont", "bgsound", "link", "meta", "noframes", "script", "style", "template",
   "title"]

/-- Parts of tables and of whole documents, dropped outside their place. -/
def misplacedNames : List String :=
  ["caption", "col", "colgroup", "frame", "head", "tbody", "td", "tfoot", "th", "thead", "tr"]

/-- Ordinary elements that end a formula or drawing. -/
def breakoutNames : List String :=
  ["b", "big", "blockquote", "body", "br", "center", "code", "dd", "div", "dl", "dt", "em", "embed",
   "h1", "h2", "h3", "h4", "h5", "h6", "head", "hr", "i", "img", "li", "listing", "menu", "meta",
   "nobr", "ol", "p", "pre", "ruby", "s", "small", "span", "strong", "strike", "sub", "sup",
   "table", "tt", "u", "ul", "var"]

/-! ## Names of foreign vocabularies -/

/-- Element names of drawings that are not all lower case. -/
def svgNames : List String :=
  ["altGlyph", "altGlyphDef", "altGlyphItem", "animateColor", "animateMotion", "animateTransform",
   "clipPath", "feBlend", "feColorMatrix", "feComponentTransfer", "feComposite", "feConvolveMatrix",
   "feDiffuseLighting", "feDisplacementMap", "feDistantLight", "feDropShadow", "feFlood", "feFuncA",
   "feFuncB", "feFuncG", "feFuncR", "feGaussianBlur", "feImage", "feMerge", "feMergeNode",
   "feMorphology", "feOffset", "fePointLight", "feSpecularLighting", "feSpotLight", "feTile",
   "feTurbulence", "foreignObject", "glyphRef", "linearGradient", "radialGradient", "textPath"]

/-- Attribute names of drawings that are not all lower case. -/
def svgAttributeNames : List String :=
  ["attributeName", "attributeType", "baseFrequency", "baseProfile", "calcMode", "clipPathUnits",
   "diffuseConstant", "edgeMode", "filterUnits", "glyphRef", "gradientTransform", "gradientUnits",
   "kernelMatrix", "kernelUnitLength", "keyPoints", "keySplines", "keyTimes", "lengthAdjust",
   "limitingConeAngle", "markerHeight", "markerUnits", "markerWidth", "maskContentUnits",
   "maskUnits", "numOctaves", "pathLength", "patternContentUnits", "patternTransform",
   "patternUnits", "pointsAtX", "pointsAtY", "pointsAtZ", "preserveAlpha", "preserveAspectRatio",
   "primitiveUnits", "refX", "refY", "repeatCount", "repeatDur", "requiredExtensions",
   "requiredFeatures", "specularConstant", "specularExponent", "spreadMethod", "startOffset",
   "stdDeviation", "stitchTiles", "surfaceScale", "systemLanguage", "tableValues", "targetX",
   "targetY", "textLength", "viewBox", "viewTarget", "xChannelSelector", "yChannelSelector",
   "zoomAndPan"]

/-- The spelling in the list, if the name is there in lower case. -/
def respell (spellings : List String) (name : String) : String :=
  (spellings.find? fun s => asciiLowerString s == name).getD name

/-- The qualifier and the rest of an attribute's name in a foreign element. -/
def splitQualifier (name : String) : Option String × String :=
  if name == "xmlns" then (some "", name)
  else if name == "xmlns:xlink" then (some "xmlns", "xlink")
  else if name == "xml:lang" then (some "xml", "lang")
  else if name == "xml:space" then (some "xml", "space")
  else
    match ["actuate", "arcrole", "href", "role", "show", "title", "type"].find?
        fun part => name == "xlink:" ++ part with
    | some part => (some "xlink", part)
    | none => (none, name)

def Space.respellAttribute : Space → String → String
  | .html, name => name
  | .math, name => respell ["definitionURL"] name
  | .svg, name => respell svgAttributeNames name

/-- The attributes of a tag as those of an element. -/
def Space.attributes (space : Space) (written : List (String × String)) : List DomAttribute :=
  match space with
  | .html => written.map fun a => ⟨none, a.1, a.2⟩
  | _ => written.map fun a =>
    let split := splitQualifier (space.respellAttribute a.1)
    ⟨split.1, split.2, a.2⟩

end HtmlComponent.Html
