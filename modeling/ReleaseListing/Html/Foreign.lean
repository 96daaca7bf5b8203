import ReleaseListing.Html.Element
import ReleaseListing.Text.Split

/-!
# Drawings and formulas in a page

Elements of SVG and MathML keep the case of some of their names, and some HTML tags end them.
-/

namespace ReleaseListing.Html

/-- Names of SVG elements that are not all lower case. -/
def svgNames : List String :=
  ["altGlyph", "altGlyphDef", "altGlyphItem", "animateColor", "animateMotion", "animateTransform",
   "clipPath", "feBlend", "feColorMatrix", "feComponentTransfer", "feComposite",
   "feConvolveMatrix", "feDiffuseLighting", "feDisplacementMap", "feDistantLight", "feDropShadow",
   "feFlood", "feFuncA", "feFuncB", "feFuncG", "feFuncR", "feGaussianBlur", "feImage", "feMerge",
   "feMergeNode", "feMorphology", "feOffset", "fePointLight", "feSpecularLighting", "feSpotLight",
   "feTile", "feTurbulence", "foreignObject", "glyphRef", "linearGradient", "radialGradient",
   "textPath"]

/-- Names of SVG attributes that are not all lower case. -/
def svgAttributeNames : List String :=
  ["attributeName", "attributeType", "baseFrequency", "baseProfile", "calcMode", "clipPathUnits",
   "diffuseConstant", "edgeMode", "filterUnits", "glyphRef", "gradientTransform", "gradientUnits",
   "kernelMatrix", "kernelUnitLength", "keyPoints", "keySplines", "keyTimes", "lengthAdjust",
   "limitingConeAngle", "markerHeight", "markerUnits", "markerWidth", "maskContentUnits",
   "maskUnits", "numOctaves", "pathLength", "patternContentUnits", "patternTransform",
   "patternUnits", "pointsAtX", "pointsAtY", "pointsAtZ", "preserveAlpha", "preserveAspectRatio",
   "primitiveUnits", "refX", "refY", "repeatCount", "repeatDur", "requiredExtensions",
   "requiredFeatures", "specularConstant", "specularExponent", "spreadMethod", "startOffset",
   "stdDeviation", "stitchTiles", "surfaceScale", "systemLanguage", "tableValues", "targetX",
   "targetY", "textLength", "viewBox", "viewTarget", "xChannelSelector", "yChannelSelector",
   "zoomAndPan"]

/-- Names of MathML attributes that are not all lower case. -/
def mathmlAttributeNames : List String := ["definitionURL"]

/-- The spelling among `names` of a name in lower case, or the name itself. -/
def recased (names : List String) (name : String) : String :=
  (names.find? fun n => Text.asciiLower n.toList == name.toList).getD name

/-- Attributes of other vocabularies that foreign elements may have. -/
def qualifiedAttributes : List (String × AttributeSpace × String) :=
  [("xlink:actuate", .xlink, "actuate"), ("xlink:arcrole", .xlink, "arcrole"),
   ("xlink:href", .xlink, "href"), ("xlink:role", .xlink, "role"), ("xlink:show", .xlink, "show"),
   ("xlink:title", .xlink, "title"), ("xlink:type", .xlink, "type"), ("xml:base", .xml, "base"),
   ("xml:lang", .xml, "lang"), ("xml:space", .xml, "space"), ("xmlns", .namespaces, "xmlns"),
   ("xmlns:xlink", .xmlns, "xlink")]

/-- An attribute as an element of the vocabulary has it. -/
def adjustedAttribute (space : Space) (a : Attribute) : Attribute :=
  let a := match space with
    | .html => a
    | .svg => { a with name := recased svgAttributeNames a.name }
    | .mathml => { a with name := recased mathmlAttributeNames a.name }
  match qualifiedAttributes.lookup a.name with
  | some (space, name) => { a with space, name }
  | none => a

/-- A tag as a foreign vocabulary has it. -/
def adjustedTag (space : Space) (tag : Tag) : Tag :=
  { tag with attributes := tag.attributes.map (adjustedAttribute space) }

/-- Start tags that end foreign elements. -/
def breakoutNames : List String :=
  ["b", "big", "blockquote", "body", "br", "center", "code", "dd", "div", "dl", "dt", "em", "embed",
   "h1", "h2", "h3", "h4", "h5", "h6", "head", "hr", "i", "img", "li", "listing", "menu", "meta",
   "nobr", "ol", "p", "pre", "ruby", "s", "small", "span", "strong", "strike", "sub", "sup",
   "table", "tt", "u", "ul", "var"]

/-- Whether a start tag ends the foreign elements that it stands in. -/
def breaksOut (tag : Tag) : Bool :=
  breakoutNames.contains tag.name ||
    (tag.name == "font" &&
      tag.attributes.any fun a => ["color", "face", "size"].contains a.name)

end ReleaseListing.Html
