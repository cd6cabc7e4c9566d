import PagePatch.Xml.Tree

namespace PagePatch.Xml

/-!
# Elements as markup

Elements inside an operation are markup that was not wrapped in character data. They are written
out again as HTML.

* `Node.write` — a node as markup;
* `Element.content` — the text of an element with the elements inside it written out.
-/

/-- The elements whose text HTML takes as it stands, so that their text is not escaped when they are
    written. -/
def rawTextElements : List String := ["script", "style"]

/-- The elements that HTML writes without an end tag. -/
def voidElements : List String :=
  ["area", "base", "br", "col", "embed", "hr", "img", "input", "link", "meta", "source", "track",
    "wbr"]

/-- Whether a `name` is in a list of lower-case names, in any case of ASCII letters. -/
def isNamed (name : String) (names : List String) : Bool :=
  names.contains (String.ofList (name.toList.map Char.toLower))

/-- The markup for the character `c` of an attribute value in double quotes. -/
def escapeInValue (c : Char) : List Char :=
  if c = '&' then "&amp;".toList else if c = '"' then "&quot;".toList else [c]

/-- The markup for the character `c` of text. Both brackets are escaped, so that written text holds
    no tag. -/
def escapeInText (c : Char) : List Char :=
  if c = '&' then "&amp;".toList
  else if c = '<' then "&lt;".toList
  else if c = '>' then "&gt;".toList
  else [c]

/-- The markup for the attribute `a` of a name and a value, behind a space. -/
def writeAttribute (a : String × String) : List Char :=
  ' ' :: a.1.toList ++ "=\"".toList ++ a.2.toList.flatMap escapeInValue ++ ['"']

/-- The markup for a start tag; each of the `attributes` is written by `writeAttribute`. -/
def writeStart (name : String) (attributes : List (String × String)) : List Char :=
  '<' :: name.toList ++ attributes.flatMap writeAttribute ++ ['>']

/-- The markup for an end tag. -/
def writeEnd (name : String) : List Char :=
  "</".toList ++ name.toList ++ ['>']

mutual

/-- The markup for a node; `raw` tells that the text stands in an element that takes it as it is. -/
def Node.write (raw : Bool) : Node → List Char
  | .text s => if raw then s.toList else s.toList.flatMap escapeInText
  | .element name attributes children =>
    writeStart name attributes ++
      -- a void element that has children after all gets its end tag
      if isNamed name voidElements && children.isEmpty then []
      else writeNodes (isNamed name rawTextElements) children ++ writeEnd name

/-- The markup for nodes, one after the other; `raw` is as for a single node. -/
def writeNodes (raw : Bool) : List Node → List Char
  | [] => []
  | n :: rest => n.write raw ++ writeNodes raw rest

end

namespace Element

/-- The markup for the element `e` as a whole. -/
def write (e : Element) : String :=
  String.ofList (e.toNode.write false)

/-- The text of the element `e`, with the elements inside it written as markup. -/
def content (e : Element) : String :=
  String.ofList (writeContent e.children)
where
  /-- Text stands as it is, elements are written out. -/
  writeContent : List Node → List Char
    | [] => []
    | n :: rest => n.write true ++ writeContent rest

/-- The value of the attribute with the given `name`. -/
def attribute? (e : Element) (name : String) : Option String :=
  e.attributes.lookup name

/-- The value of the attribute `name` of `e`, if it is there and not empty. -/
def nonEmpty? (e : Element) (name : String) : Option String :=
  (e.attribute? name).filter (· ≠ "")

/-- The elements among the children of `e`, in order. -/
def elements (e : Element) : List Element :=
  e.children.filterMap fun
    | .element name attributes children => some { name, attributes, children }
    | .text _ => none

/-- The first child element of `e` with the given `name`. -/
def child? (e : Element) (name : String) : Option Element :=
  e.elements.find? (·.name = name)

end Element

end PagePatch.Xml
