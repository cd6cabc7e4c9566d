import PagePatch.Html.Parse
import PagePatch.Text.Blank

namespace PagePatch.Html

/-!
# Sections of page markup

The head or the body of a whole page is cut out of its text, because a parser would make up a
section that is not there.

* `Section` — the attributes of a section and the markup in it;
* `section?` — the section of a region.
-/

/-- A section of page markup: what is left of a `<head>` or `<body>` when it is cut out of the text
    of a page. -/
structure Section where
  /-- The names and values of the attributes of its start tag, sorted by name. -/
  attributes : List (String × String) := []
  /-- The markup in it. -/
  inner : String
  deriving DecidableEq, Repr

/-- The text behind a start tag of `region` that stands in front of `s`. The tag ends at the first
    `>`, in a quoted value, too. -/
def regionStart? (region : Region) (s : List Char) : Option (List Char) := do
  let s ← Text.dropPrefixNoCase? ('<' :: region.name.toList) s
  match s with
  | '>' :: rest => pure rest
  | c :: rest =>
    if Text.isBlank c then
      match rest.dropWhile (· ≠ '>') with
      | [] => none
      | _ :: rest => pure rest
    else none
  | [] => none

/-- The first start tag of `region` in a text, without what stands before it, and the text behind
    it. -/
def findRegionStart (region : Region) : List Char → Option (List Char × List Char)
  | [] => none
  | c :: rest =>
    match regionStart? region (c :: rest) with
    | some behind => some ((c :: rest).take (rest.length + 1 - behind.length), behind)
    | none => findRegionStart region rest

/-- Whether an end tag of `region` stands in front of `s`. Blanks may stand in it before the `>`. -/
def isRegionEnd (region : Region) (s : List Char) : Bool :=
  match Text.dropPrefixNoCase? ('<' :: '/' :: region.name.toList) s with
  | some s => (s.dropWhile Text.isBlank).head? == some '>'
  | none => false

/-- The text before the last end tag of `region`, if there is one: the rest of the text is looked
    through first. -/
def beforeRegionEnd? (region : Region) : List Char → Option (List Char)
  | [] => none
  | c :: rest =>
    match beforeRegionEnd? region rest with
    | some inner => some (c :: inner)
    | none => if isRegionEnd region (c :: rest) then some [] else none

/-- The attributes of the start tag `startTag` of `region`. It is parsed as a page, whose parser
    adds the rest. -/
def regionAttributes (region : Region) (startTag : String) : List (String × String) :=
  match (Node.elementsOf (parsePage startTag)).find? (·.1.name == region.name) with
  | some (e, _) => e.attributes.toList.map fun a => (a.name, a.value)
  | none => []

/-- The section of `region` in `markup`: from the first start tag to the last end tag behind it, or
    to the end of the text if there is none. -/
def section? (region : Region) (markup : String) : Option Section :=
  (findRegionStart region markup.toList).map fun (startTag, behind) =>
    { attributes := regionAttributes region (String.ofList startTag)
      inner := String.ofList ((beforeRegionEnd? region behind).getD behind) }

end PagePatch.Html
