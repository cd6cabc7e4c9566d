import PagePatch.Html.Rules.Body

namespace PagePatch.Html.Rules

/-!
# Rules for SVG and MathML
-/

/-- Whether a token falls under the rules for other vocabularies: what it stands in is not HTML, and
    does not hold HTML either. -/
def isForeign (b : Builder) (t : Token) : Bool :=
  match b.adjustedCurrent? with
  | none => false
  | some n =>
    if n.space == .html then false
    else
      match t with
      | .ending => false
      | .char _ => !n.opensHtml
      | .startTag tag =>
        -- two tags stay MathML even in an element that holds HTML text
        let isMathText := n.holdsMathText && !(["mglyph", "malignmark"].contains tag.name)
        let isAnnotation := n == ⟨.mathml, "annotation-xml"⟩ && tag.name == "svg"
        !(isMathText || n.holdsHtml || isAnnotation)
      | _ => true

/-- A start tag in another vocabulary. In a page the tag of an HTML element ends it; in a fragment
    even such an element becomes part of it. -/
def startInForeign (b : Builder) (t : Tag) : Outcome :=
  if t.endsForeign && !b.fragment then .left (b.pop.popTo Name.opensHtml)
  else .taken (startForeign b ((b.adjustedCurrent?.map Name.space).getD .html) t)

/-- An end tag in another vocabulary; nothing if it falls under the rules for HTML. -/
def endInForeign? (b : Builder) (t : Tag) : Option Builder :=
  go true b.opened
where
  /-- The same for a list of open elements; `first` tells that it is the whole list. -/
  go (first : Bool) : List Open → Option Builder
    | [] | [_] => some b
    | o :: outer =>
      if !first && o.name.space == .html then none
      else if o.name.name.toList.map Char.toLower == t.name.toList then
        some { b with opened := outer }
      else go false outer

/-- A character in another vocabulary. Here a null character is replaced and not dropped. -/
def charInForeign (b : Builder) (c : Char) : Builder :=
  if c = '\x00' then b.insertChar replacement
  else (if isSpace c then b else noFrameset b).insertChar c

end PagePatch.Html.Rules
