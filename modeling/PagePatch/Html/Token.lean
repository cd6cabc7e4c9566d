import PagePatch.Html.Node

namespace PagePatch.Html

/-!
# Tokens

What the text of a page is cut into before the tree is built.
-/

/-- A start or end tag. The `attributes` of an end tag are read and then left unused. -/
structure Tag where
  /-- Its name, in lower case. -/
  name : String
  /-- Its attributes in order, without repetitions. -/
  attributes : List Attribute := []
  /-- Whether it ends in a slash. -/
  selfClosing : Bool := false
  deriving DecidableEq, Repr

/-- The value of the attribute `name` of the tag `t`, before it is known whether the name gets a
    namespace. -/
def Tag.attribute? (t : Tag) (name : String) : Option String :=
  (t.attributes.find? (·.name == name)).map Attribute.value

/-- A document type declaration. All of it decides whether the page `isLegacy`; the tree keeps only
    its `name`. -/
structure Doctype where
  /-- Its name. -/
  name : Option String := none
  /-- Its public identifier. -/
  publicId : Option String := none
  /-- Its system identifier. -/
  systemId : Option String := none
  /-- Whether it is broken. -/
  broken : Bool := false
  deriving DecidableEq, Repr

/-- A token: what `Builder` is given one at a time. -/
inductive Token where
  | doctype (d : Doctype)
  | startTag (t : Tag)
  | endTag (t : Tag)
  | comment (s : String)
  /-- One character of text. -/
  | char (c : Char)
  /-- The character behind this is written in a faulty way. -/
  | fault
  /-- The end of the text. -/
  | ending
  deriving DecidableEq, Repr

end PagePatch.Html
