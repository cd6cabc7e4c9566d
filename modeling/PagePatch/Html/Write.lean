import PagePatch.Html.Node

namespace PagePatch.Html

/-!
# Markup of trees

* `Node.write` — the markup of a tree;
* `Node.writeAll` — the markup of a list of trees.
-/

/-- The HTML elements that have no content and no end tag when they are written. -/
def voidNames : List String :=
  ["area", "base", "basefont", "bgsound", "br", "col", "embed", "frame", "hr", "img", "input",
   "keygen", "link", "meta", "param", "source", "track", "wbr"]

/-- The HTML elements whose text is written as it is, without `escapeText`. -/
def rawNames : List String :=
  ["style", "script", "xmp", "iframe", "noembed", "noframes", "plaintext", "noscript"]

/-- Whether `e` has no content and no end tag. Elements of `svg` and `math` always have an end
    tag. -/
def Element.isVoid (e : Element) : Bool :=
  e.space == .html && voidNames.contains e.name

/-- Whether the text of `e` is written as it is. In `svg` and `math` a `script` is written like any
    other element. -/
def Element.isRaw (e : Element) : Bool :=
  e.space == .html && rawNames.contains e.name

/-- A character of text as it is written; `escapeText` puts these together. -/
def escapeTextChar (c : Char) : List Char :=
  match c with
  | '&' => "&amp;".toList
  | '\u00A0' => "&nbsp;".toList
  | '<' => "&lt;".toList
  | '>' => "&gt;".toList
  | c => [c]

/-- A character of the value of an attribute as it is written. Only what could end the value, or
    begin a reference, is not itself; a no-break space is written as a reference, too. -/
def escapeValueChar (c : Char) : List Char :=
  match c with
  | '&' => "&amp;".toList
  | '\u00A0' => "&nbsp;".toList
  | '"' => "&quot;".toList
  | c => [c]

/-- The markup of the text `s` outside the elements of `rawNames`. -/
def escapeText (s : String) : String :=
  String.ofList (s.toList.flatMap escapeTextChar)

/-- The markup of the attribute value `s`, without the quotes around it. -/
def escapeValue (s : String) : String :=
  String.ofList (s.toList.flatMap escapeValueChar)

/-- The name of an attribute as it is written, with the prefix of its namespace; a `plain` one has
    none. -/
def Attribute.writtenName (a : Attribute) : String :=
  match a.space with
  | .plain => a.name
  | .xlink => "xlink:" ++ a.name
  | .xml => "xml:" ++ a.name
  | .xmlns => if a.name = "xmlns" then a.name else "xmlns:" ++ a.name

/-- The markup of an attribute, with the blank in front of it that sets it off from the name or
    attribute before. -/
def Attribute.write (a : Attribute) : String :=
  " " ++ a.writtenName ++ "=\"" ++ escapeValue a.value ++ "\""

/-- The start tag of `e`, with its attributes in their order. The `region` of an element is not
    written. -/
def Element.startTag (e : Element) : String :=
  "<" ++ e.name ++ String.join (e.attributes.toList.map Attribute.write) ++ ">"

/-- The end tag of `e`; `writeIn` leaves it out for an element that `isVoid`. -/
def Element.endTag (e : Element) : String :=
  "</" ++ e.name ++ ">"

namespace Node

mutual

/-- The markup of a tree that stands in an element whose text is written as it is (`raw`) or that
    has no content (`void`): there only the text of elements is written. -/
def writeIn (raw void : Bool) : Node → String
  | element e children =>
    -- an element in one that has no content leaves no tag, but its text is still written
    if void then writeAllIn e.isRaw true children
    else
      e.startTag ++ writeAllIn e.isRaw e.isVoid children ++ (if e.isVoid then "" else e.endTag)
  | text s => if raw then s else escapeText s
  | comment s => "<!--" ++ s ++ "-->"
  | doctype name => "<!DOCTYPE " ++ name ++ ">"

/-- The markup of a list of trees that stand in an element, one tree after the other; see
    `writeIn`. -/
def writeAllIn (raw void : Bool) : List Node → String
  | [] => ""
  | n :: rest => n.writeIn raw void ++ writeAllIn raw void rest

end

/-- The markup of a tree that stands in no element; `writeIn` is told of the element around it. -/
def write (n : Node) : String :=
  n.writeIn false false

/-- The markup of a list of trees that stand in no element, one behind the other. -/
def writeAll (ns : List Node) : String :=
  writeAllIn false false ns

end Node

end PagePatch.Html
