namespace PagePatch.Xml

/-!
# Faults of XML documents

* `AttributeFault` — a fault inside a start tag; positions count from behind the `<`;
* `Fault` — a fault of a document; positions count from its beginning.

All positions are numbers of UTF-8 bytes.
-/

/-- A fault inside a start tag, at the position where it was noticed; `Fault` has it beside the
    faults of a whole document. -/
inductive AttributeFault where
  /-- A key is followed by neither an equals sign nor a space. -/
  | missingEquals (pos : Nat)
  /-- Nothing follows an equals sign. -/
  | missingValue (pos : Nat)
  /-- A value does not begin with a quote. -/
  | unquotedValue (pos : Nat)
  /-- The quote that a value begins with does not occur again. -/
  | missingQuote (pos : Nat) (quote : Char)
  /-- A key occurs twice: at `pos`, and before that at `previous`. -/
  | duplicated (pos previous : Nat)
  deriving DecidableEq, Repr

/-- The wording of a fault inside a start tag, as it is told with the fault of the document. -/
def AttributeFault.message : AttributeFault → String
  | missingEquals pos =>
    "position " ++ toString pos ++ ": attribute key must be directly followed by `=` or space"
  | missingValue pos =>
    "position " ++ toString pos ++ ": `=` must be followed by an attribute value"
  | unquotedValue pos =>
    "position " ++ toString pos ++ ": attribute value must be enclosed in `\"` or `'`"
  | missingQuote pos quote =>
    "position " ++ toString pos ++ ": missing closing quote `" ++ String.ofList [quote] ++
      "` in attribute value"
  | duplicated pos previous =>
    "position " ++ toString pos ++ ": duplicated attribute, previous declaration at position " ++
      toString previous

/-- The kinds of markup that have to be closed, each by the characters in `Construct.closedBy`. -/
inductive Construct where
  | instruction
  | comment
  | doctype
  | cdata
  | tag
  deriving DecidableEq, Repr

/-- The word for a kind of markup, in the wording of faults. -/
def Construct.name : Construct → String
  | instruction => "processing instruction or xml declaration"
  | comment => "comment"
  | doctype => "DOCTYPE"
  | cdata => "CDATA"
  | tag => "tag"

/-- The characters that close a kind of markup, in the wording of faults. -/
def Construct.closedBy : Construct → String
  | instruction => "?>"
  | comment => "-->"
  | doctype => ">"
  | cdata => "]]>"
  | tag => ">"

/-- A fault of a document. The first one ends the reading; `Fault.message` words it. -/
inductive Fault where
  /-- `<!` is not followed by a known word. -/
  | unknownMarkup (pos : Nat)
  /-- Markup is not closed, or not opened the way it should be. -/
  | unclosed (what : Construct) (pos : Nat)
  /-- An end tag does not match the innermost open element, whose name is the `expected` one. -/
  | mismatchedEnd (expected found : String) (pos : Nat)
  /-- An end tag stands where no element is open. -/
  | unmatchedEnd (name : String) (pos : Nat)
  /-- A document type declaration names no type. -/
  | unnamedDoctype (pos : Nat)
  /-- A fault inside the start tag of an element. -/
  | badAttribute (element : String) (fault : AttributeFault)
  /-- An element is not closed. -/
  | unclosedElement (name : String)
  /-- Text that is not blank stands outside the root element. -/
  | textOutsideRoot
  /-- There is a second root element. -/
  | secondRoot
  /-- There is no root element. -/
  | noRoot
  deriving DecidableEq, Repr

/-- The wording of a fault, with its position where there is one. -/
def Fault.message : Fault → String
  | unknownMarkup pos =>
    "syntax error: unknown or missed symbol in markup at position " ++ toString pos
  | unclosed what pos =>
    "syntax error: " ++ what.name ++ " not closed: `" ++ what.closedBy ++
      "` not found before end of input at position " ++ toString pos
  | mismatchedEnd expected found pos =>
    "ill-formed document: expected `</" ++ expected ++ ">`, but `</" ++ found ++
      ">` was found at position " ++ toString pos
  | unmatchedEnd name pos =>
    "ill-formed document: close tag `</" ++ name ++
      ">` does not match any open tag at position " ++ toString pos
  | unnamedDoctype pos =>
    "ill-formed document: `<!DOCTYPE>` declaration does not contain a name of a document type " ++
      "at position " ++ toString pos
  | badAttribute element fault => "bad attribute in <" ++ element ++ ">: " ++ fault.message
  | unclosedElement name => "unclosed element <" ++ name ++ ">"
  | textOutsideRoot => "content outside the root element"
  | secondRoot => "multiple root elements"
  | noRoot => "no root element"

end PagePatch.Xml
