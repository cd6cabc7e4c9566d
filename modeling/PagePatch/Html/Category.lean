import PagePatch.Html.Node

namespace PagePatch.Html

/-!
# Categories of elements

* `Name` — the name of an element with its vocabulary;
* the sets of names that the rules of tree building speak about.
-/

/-- The name of an element with its vocabulary. The rules of tree building see no more of an `Open`
    element than this. -/
structure Name where
  /-- Its vocabulary. -/
  space : Namespace
  /-- Its name. -/
  name : String
  deriving DecidableEq, Repr

namespace Name

/-- Whether the element is the HTML element `name`; an `svg` or `math` element of that name is
    not. -/
def isHtml (n : Name) (name : String) : Bool :=
  n.space == .html && n.name == name

/-- Whether the element is an HTML element whose name is among `names`. -/
def isIn (n : Name) (names : List String) : Bool :=
  n.space == .html && names.contains n.name

/-- Whether it is one of the MathML elements that hold HTML text. -/
def holdsMathText (n : Name) : Bool :=
  n.space == .mathml && ["mi", "mo", "mn", "ms", "mtext"].contains n.name

/-- Whether it is one of the SVG elements that hold HTML. -/
def holdsHtml (n : Name) : Bool :=
  n.space == .svg && ["foreignObject", "desc", "title"].contains n.name

/-- Whether what stands in it is read as HTML: it is an HTML element, or `holdsMathText`, or
    `holdsHtml`. -/
def opensHtml (n : Name) : Bool :=
  n.space == .html || n.holdsMathText || n.holdsHtml

/-! ### Scopes -/

/-- Whether a search among the open elements stops at it; see `Builder.inScope`. -/
def endsScope (n : Name) : Bool :=
  n.isIn ["applet", "caption", "html", "table", "td", "th", "marquee", "object", "template"]
    || n.holdsMathText || n.holdsHtml

/-- Whether a search for an open list item stops at it: at a list, and at all that `endsScope`. -/
def endsListScope (n : Name) : Bool :=
  n.isIn ["ol", "ul"] || n.endsScope

/-- Whether a search for an open paragraph stops at it: at a `button`, too. -/
def endsButtonScope (n : Name) : Bool :=
  n.isHtml "button" || n.endsScope

/-- Whether a search for a part of the innermost table stops at it. What stands in a cell is looked
    through. -/
def endsTableScope (n : Name) : Bool :=
  n.isIn ["html", "table", "template"]

/-- Whether a search for an open `select` stops at it: at everything but options and their
    groups. -/
def endsSelectScope (n : Name) : Bool :=
  !n.isIn ["optgroup", "option"]

/-- Whether table rows stand in it: `Builder.popTo` goes back to such an element before a row is
    opened. -/
def holdsRows (n : Name) : Bool :=
  n.isIn ["tbody", "tfoot", "thead", "template", "html"]

/-- Whether table cells stand in it: `Builder.popTo` goes back to such an element before a cell is
    opened. -/
def holdsCells (n : Name) : Bool :=
  n.isIn ["tr", "template", "html"]

/-- Whether it is a part of a table that holds no text. New nodes in it are misplaced; see
    `Builder.placeIn`. -/
def holdsNoText (n : Name) : Bool :=
  n.isIn ["table", "tbody", "tfoot", "thead", "tr"]

/-- Whether it is a cell of a table. -/
def isCell (n : Name) : Bool :=
  n.isIn ["td", "th"]

/-- Whether it is a heading. Any end tag of a heading ends any of them. -/
def isHeading (n : Name) : Bool :=
  n.isIn ["h1", "h2", "h3", "h4", "h5", "h6"]

/-! ### Ends -/

/-- Whether its end tag can be left out, so that `Builder.endImplied` ends it. -/
def endsByItself (n : Name) : Bool :=
  n.isIn ["dd", "dt", "li", "option", "optgroup", "p", "rb", "rp", "rt", "rtc"]

/-- Whether it ends with the template it stands in: it `endsByItself`, or it is a part of a
    table. -/
def endsWithTemplate (n : Name) : Bool :=
  n.endsByItself
    || n.isIn ["caption", "colgroup", "tbody", "td", "tfoot", "th", "thead", "tr"]

/-- Whether an unknown end tag does not reach across it, and a formatting element is split at it. -/
def isSpecial (n : Name) : Bool :=
  n.isIn
    ["address", "applet", "area", "article", "aside", "base", "basefont", "bgsound",
     "blockquote", "body", "br", "button", "caption", "center", "col", "colgroup", "dd",
     "details", "dir", "div", "dl", "dt", "embed", "fieldset", "figcaption", "figure", "footer",
     "form", "frame", "frameset", "h1", "h2", "h3", "h4", "h5", "h6", "head", "header",
     "hgroup", "hr", "html", "iframe", "img", "input", "isindex", "li", "link", "listing",
     "main", "marquee", "menu", "meta", "nav", "noembed", "noframes", "noscript", "object",
     "ol", "p", "param", "plaintext", "pre", "script", "section", "select", "source", "style",
     "summary", "table", "tbody", "td", "template", "textarea", "tfoot", "th", "thead", "title",
     "tr", "track", "ul", "wbr", "xmp"]

/-- Whether the start tag of a list item or definition does not reach across it to end the one
    before. -/
def stopsItems (n : Name) : Bool :=
  n.isSpecial && !n.isIn ["address", "div", "p"]

end Name

end PagePatch.Html
