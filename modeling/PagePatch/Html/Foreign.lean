import PagePatch.Html.Token

namespace PagePatch.Html

/-!
# Names in SVG and MathML

The lexer gives all names in lower case and without a namespace. Inside an `svg` or `math` element
some names have capital letters, and some attributes belong to a namespace.
-/

/-- The SVG elements with capital letters, among which `foreignElement` looks up the names of
    tags. -/
def svgElementNames : List String :=
  ["altGlyph", "altGlyphDef", "altGlyphItem", "animateColor", "animateMotion",
   "animateTransform", "clipPath", "feBlend", "feColorMatrix", "feComponentTransfer",
   "feComposite", "feConvolveMatrix", "feDiffuseLighting", "feDisplacementMap",
   "feDistantLight", "feDropShadow", "feFlood", "feFuncA", "feFuncB", "feFuncG", "feFuncR",
   "feGaussianBlur", "feImage", "feMerge", "feMergeNode", "feMorphology", "feOffset",
   "fePointLight", "feSpecularLighting", "feSpotLight", "feTile", "feTurbulence",
   "foreignObject", "glyphRef", "linearGradient", "radialGradient", "textPath"]

/-- The SVG attributes with capital letters, among which `foreignAttribute` looks up the names in a
    tag. -/
def svgAttributeNames : List String :=
  ["attributeName", "attributeType", "baseFrequency", "baseProfile", "calcMode",
   "clipPathUnits", "diffuseConstant", "edgeMode", "filterUnits", "glyphRef",
   "gradientTransform", "gradientUnits", "kernelMatrix", "kernelUnitLength", "keyPoints",
   "keySplines", "keyTimes", "lengthAdjust", "limitingConeAngle", "markerHeight",
   "markerUnits", "markerWidth", "maskContentUnits", "maskUnits", "numOctaves", "pathLength",
   "patternContentUnits", "patternTransform", "patternUnits", "pointsAtX", "pointsAtY",
   "pointsAtZ", "preserveAlpha", "preserveAspectRatio", "primitiveUnits", "refX", "refY",
   "repeatCount", "repeatDur", "requiredExtensions", "requiredFeatures", "specularConstant",
   "specularExponent", "spreadMethod", "startOffset", "stdDeviation", "stitchTiles",
   "surfaceScale", "systemLanguage", "tableValues", "targetX", "targetY", "textLength",
   "viewBox", "viewTarget", "xChannelSelector", "yChannelSelector", "zoomAndPan"]

/-- The one of `names` that is `name` apart from its capital letters, and `name` itself if there is
    none. -/
def capitalized (names : List String) (name : String) : String :=
  (names.find? fun n => n.toList.map Char.toLower == name.toList).getD name

/-- The attributes with a namespace, by the names they are written with in a tag. -/
def namespacedAttributes : List (String × AttributeSpace × String) :=
  [("xlink:actuate", .xlink, "actuate"), ("xlink:arcrole", .xlink, "arcrole"),
   ("xlink:href", .xlink, "href"), ("xlink:role", .xlink, "role"),
   ("xlink:show", .xlink, "show"), ("xlink:title", .xlink, "title"),
   ("xlink:type", .xlink, "type"), ("xml:base", .xml, "base"), ("xml:lang", .xml, "lang"),
   ("xml:space", .xml, "space"), ("xmlns", .xmlns, "xmlns"),
   ("xmlns:xlink", .xmlns, "xlink")]

/-- What the attribute `a` of a tag is in the vocabulary `space`: its capital letters and its
    namespace are put in. -/
def foreignAttribute (space : Namespace) (a : Attribute) : Attribute :=
  let name :=
    match space with
    | .html => a.name
    | .mathml => capitalized ["definitionURL"] a.name
    | .svg => capitalized svgAttributeNames a.name
  match namespacedAttributes.lookup name with
  | some (space, name) => { a with space, name }
  | none => { a with name }

/-- The element that the start tag `t` stands for in the vocabulary `space`. -/
def foreignElement (space : Namespace) (t : Tag) : Element where
  space
  name := if space = .svg then capitalized svgElementNames t.name else t.name
  attributes := .ofList (t.attributes.map (foreignAttribute space))

/-- The start tags of HTML elements that end an `svg` or `math` element they stand in. -/
def htmlOnlyNames : List String :=
  ["b", "big", "blockquote", "body", "br", "center", "code", "dd", "div", "dl", "dt", "em",
   "embed", "h1", "h2", "h3", "h4", "h5", "h6", "head", "hr", "i", "img", "li", "listing",
   "menu", "meta", "nobr", "ol", "p", "pre", "ruby", "s", "small", "span", "strong", "strike",
   "sub", "sup", "table", "tt", "u", "ul", "var"]

/-- Whether a start tag ends an `svg` or `math` element: its name is an HTML one, or it is a `font`
    with an attribute of HTML. -/
def Tag.endsForeign (t : Tag) : Bool :=
  htmlOnlyNames.contains t.name
    || (t.name == "font" && t.attributes.any fun a => ["color", "face", "size"].contains a.name)

end PagePatch.Html
