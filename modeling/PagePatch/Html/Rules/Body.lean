import PagePatch.Html.Rules.Head

namespace PagePatch.Html

/-!
# Rules for the body

* `BodyStart` — the kinds of start tags, and `BodyEnd` — those of end tags;
* `Rules.inBody` — the rules for the body, which other rules fall back on.
-/

/-- The kinds of start tags in the body. The tags of one kind have one rule in
    `Rules.startInBody`. -/
inductive BodyStart where
  | root
  | metadata
  | body
  | frameset
  | block
  | heading
  | preformatted
  | form
  | listItem
  | definition
  | plaintext
  | button
  | anchor
  | formatting
  | nobr
  | embedded
  | table
  | void
  | input
  | parameter
  | rule
  | image
  | textarea
  | xmp
  | iframe
  | rawText
  | select
  | option
  | rubyBase
  | rubyText
  | math
  | svg
  | misplaced
  | other
  deriving DecidableEq, Repr

/-- The names of the start tags of each kind. Those that are not listed are of the kind `other`. -/
def BodyStart.names : List (BodyStart × List String) :=
  [(root, ["html"]),
   (metadata, Rules.headNames),
   (body, ["body"]),
   (frameset, ["frameset"]),
   (block,
    ["address", "article", "aside", "blockquote", "center", "details", "dialog", "dir", "div",
     "dl", "fieldset", "figcaption", "figure", "footer", "header", "hgroup", "main", "menu",
     "nav", "ol", "p", "section", "summary", "ul"]),
   (heading, ["h1", "h2", "h3", "h4", "h5", "h6"]),
   (preformatted, ["pre", "listing"]),
   (form, ["form"]),
   (listItem, ["li"]),
   (definition, ["dd", "dt"]),
   (plaintext, ["plaintext"]),
   (button, ["button"]),
   (anchor, ["a"]),
   (formatting,
    ["b", "big", "code", "em", "font", "i", "s", "small", "strike", "strong", "tt", "u"]),
   (nobr, ["nobr"]),
   (embedded, ["applet", "marquee", "object"]),
   (table, ["table"]),
   (void, ["area", "br", "embed", "img", "keygen", "wbr"]),
   (input, ["input"]),
   (parameter, ["param", "source", "track"]),
   (rule, ["hr"]),
   (image, ["image"]),
   (textarea, ["textarea"]),
   (xmp, ["xmp"]),
   (iframe, ["iframe"]),
   (rawText, ["noembed", "noscript"]),
   (select, ["select"]),
   (option, ["optgroup", "option"]),
   (rubyBase, ["rb", "rtc"]),
   (rubyText, ["rp", "rt"]),
   (math, ["math"]),
   (svg, ["svg"]),
   (misplaced,
    ["caption", "col", "colgroup", "frame", "head", "tbody", "td", "tfoot", "th", "thead",
     "tr"])]

/-- The kind of the start tag `name`. -/
def BodyStart.ofName (name : String) : BodyStart :=
  ((names.find? fun (_, names) => names.contains name).map Prod.fst).getD other

/-- The kinds of end tags in the body. The tags of one kind have one rule in `Rules.endInBody`. -/
inductive BodyEnd where
  | template
  | body
  | root
  | block
  | form
  | paragraph
  | listItem
  | definition
  | heading
  | formatting
  | embedded
  | lineBreak
  | other
  deriving DecidableEq, Repr

/-- The names of the end tags of each kind. Those that are not listed are of the kind `other`. -/
def BodyEnd.names : List (BodyEnd × List String) :=
  [(template, ["template"]),
   (body, ["body"]),
   (root, ["html"]),
   (block,
    ["address", "article", "aside", "blockquote", "button", "center", "details", "dialog",
     "dir", "div", "dl", "fieldset", "figcaption", "figure", "footer", "header", "hgroup",
     "listing", "main", "menu", "nav", "ol", "pre", "section", "summary", "ul"]),
   (form, ["form"]),
   (paragraph, ["p"]),
   (listItem, ["li"]),
   (definition, ["dd", "dt"]),
   (heading, ["h1", "h2", "h3", "h4", "h5", "h6"]),
   (formatting,
    ["a", "b", "big", "code", "em", "font", "i", "nobr", "s", "small", "strike", "strong",
     "tt", "u"]),
   (embedded, ["applet", "marquee", "object"]),
   (lineBreak, ["br"])]

/-- The kind of the end tag `name`. -/
def BodyEnd.ofName (name : String) : BodyEnd :=
  ((names.find? fun (_, names) => names.contains name).map Prod.fst).getD other

/-- Whether `t` is the tag of a hidden control, which may stand where text may not. -/
def Tag.isHidden (t : Tag) : Bool :=
  (t.attribute? "type").any fun v => v.toList.map Char.toLower == "hidden".toList

namespace Rules

/-- The state with no frameset possible any more: something that can be seen has come. -/
def noFrameset (b : Builder) : Builder :=
  { b with framesetOk := false }

/-- A further `body` tag gives the body the attributes that it lacks. In a template the tag does
    nothing. -/
def mergeBody (b : Builder) (t : Tag) : Builder :=
  match b.body? with
  | some body =>
    if b.hasOpen "template" then b
    else { b with framesetOk := false, store := b.store.addMissing body.slot t.attributes }
  | none => b

/-- A frameset takes the place of the body, as long as nothing that can be seen has come. -/
def replaceBody (b : Builder) (t : Tag) : Builder :=
  match b.framesetOk, b.body? with
  | true, some body =>
    let b := { b with store := b.store.detach body.slot, opened := b.outermost?.toList }
    (b.openTag t).withMode .inFrameset
  | _, _ => b

/-- The name of the open item that a new one ends: the innermost of `names`, unless an element that
    `stopsItems` comes first. -/
def itemToEnd? (names : List String) : List Open → Option String
  | [] => none
  | o :: outer =>
    if o.name.isIn names then some o.name.name
    else if o.name.stopsItems then none
    else itemToEnd? names outer

/-- The start of an item of a list or definition; it ends the open item of one of `names`. -/
def startItem (b : Builder) (names : List String) (t : Tag) : Builder :=
  let b := noFrameset b
  let b :=
    match itemToEnd? names b.opened with
    | some name => (b.endImpliedExcept name).popThroughNamed name
    | none => b
  b.endParagraphInScope.openTag t

/-- The start of a form. There are no forms in forms, other than in a template. -/
def startForm (b : Builder) (t : Tag) : Builder :=
  let inTemplate := b.hasOpen "template"
  if b.form.isSome && !inTemplate then b
  else
    let (b, n) := b.endParagraphInScope.insertElement t.element
    if inTemplate then b else { b with form := some n }

/-- The start of a link. There are no links in links: one that has not ended, as its entry tells,
    ends first. -/
def startAnchor (b : Builder) (t : Tag) : Builder :=
  let b :=
    match (b.formatting.takeWhile (!·.isMarker)).find? (·.isNamed "a") with
    | some (.element slot _) =>
      ((b.endFormatting "a").removeFormatting slot).removeOpen slot
    | some .marker | none => b
  b.reopenFormatting.openFormatting t

/-- The start of text that does not break; an open one ends first. -/
def startNobr (b : Builder) (t : Tag) : Builder :=
  let b := b.reopenFormatting
  let b :=
    if b.inScopeNamed Name.endsScope "nobr" then (b.endFormatting "nobr").reopenFormatting else b
  b.openFormatting t

/-- The start of a button. There are no buttons in buttons: an open one ends first. -/
def startButton (b : Builder) (t : Tag) : Builder :=
  let b :=
    if b.inScopeNamed Name.endsScope "button" then b.endImplied.popThroughNamed "button" else b
  noFrameset (b.reopenFormatting.openTag t)

/-- The rules for a list of options that starts under the rules `mode`: in a table its tags end the
    list. -/
def modeOfSelect : Mode → Mode
  | .inTable | .inCaption | .inTableBody | .inRow | .inCell => .inSelectInTable
  | _ => .inSelect

/-- The start of an element of the vocabulary `space`. Only there a slash in the tag closes it. -/
def startForeign (b : Builder) (space : Namespace) (t : Tag) : Builder :=
  if t.selfClosing then (b.insertClosed (foreignElement space t)).1
  else (b.insertElement (foreignElement space t)).1

/-- Adds an element that has no content and stands in text, so that formatting elements go on around
    it. -/
def addVoid (b : Builder) (t : Tag) : Builder :=
  b.reopenFormatting.addTag t

/-- A start tag in the body, by its kind. -/
def startInBody (b : Builder) (t : Tag) : Outcome :=
  match BodyStart.ofName t.name with
  | .root => .taken (mergeRoot b t)
  | .metadata => startInHead b t
  | .body => .taken (mergeBody b t)
  | .frameset => .taken (replaceBody b t)
  | .block => .taken (b.endParagraphInScope.openTag t)
  | .heading =>
    let b := b.endParagraphInScope
    .taken ((if b.currentIs Name.isHeading then b.pop else b).openTag t)
  | .preformatted =>
    .taken { noFrameset (b.endParagraphInScope.openTag t) with skipNewline := true }
  | .form => .taken (startForm b t)
  | .listItem => .taken (startItem b ["li"] t)
  | .definition => .taken (startItem b ["dd", "dt"] t)
  | .plaintext =>
    .taken { b.endParagraphInScope.openTag t with lexing := some .plaintext }
  | .button => .taken (startButton b t)
  | .anchor => .taken (startAnchor b t)
  | .formatting => .taken (b.reopenFormatting.openFormatting t)
  | .nobr => .taken (startNobr b t)
  | .embedded => .taken (noFrameset (b.reopenFormatting.openTag t).markFormatting)
  | .table =>
    let b := if b.legacy then b else b.endParagraphInScope
    .taken ((noFrameset (b.openTag t)).withMode .inTable)
  | .void => .taken (noFrameset (addVoid b t))
  | .input => .taken (if t.isHidden then addVoid b t else noFrameset (addVoid b t))
  | .parameter => .taken (b.addTag t)
  | .rule => .taken (noFrameset (b.endParagraphInScope.addTag t))
  | .image => .taken (noFrameset (addVoid b { t with name := "img" }))
  | .textarea => .taken { (noFrameset b).openText t .rcdata with skipNewline := true }
  | .xmp => .taken ((noFrameset b.endParagraphInScope.reopenFormatting).openText t .rawtext)
  | .iframe => .taken ((noFrameset b).openText t .rawtext)
  | .rawText => .taken (b.openText t .rawtext)
  | .select =>
    .taken ((noFrameset (b.reopenFormatting.openTag t)).withMode (modeOfSelect b.mode))
  | .option =>
    let b := if b.currentNamed "option" then b.pop else b
    .taken (b.reopenFormatting.openTag t)
  | .rubyBase =>
    .taken ((if b.inScopeNamed Name.endsScope "ruby" then b.endImplied else b).openTag t)
  | .rubyText =>
    let b := if b.inScopeNamed Name.endsScope "ruby" then b.endImpliedExcept "rtc" else b
    .taken (b.openTag t)
  | .math => .taken (startForeign b .mathml t)
  | .svg => .taken (startForeign b .svg t)
  | .misplaced => .taken b
  | .other => .taken (b.reopenFormatting.openTag t)

/-- The end of a form. Outside templates the form is forgotten even if it is not in scope. -/
def endForm (b : Builder) : Builder :=
  if b.hasOpen "template" then
    if b.inScopeNamed Name.endsScope "form" then b.endImplied.popThroughNamed "form" else b
  else
    match b.form with
    | none => b
    | some n =>
      let b := { b with form := none }
      if b.inScope Name.endsScope (·.slot == n) then b.endImplied.removeOpen n else b

/-- An end tag in the body, by its kind. -/
def endInBody (b : Builder) (t : Tag) : Outcome :=
  match BodyEnd.ofName t.name with
  | .template => .taken (endTemplate b)
  | .body =>
    .taken (if b.inScopeNamed Name.endsScope "body" then b.withMode .afterBody else b)
  | .root =>
    if b.inScopeNamed Name.endsScope "body" then .left (b.withMode .afterBody) else .taken b
  | .block =>
    .taken (if b.inScopeNamed Name.endsScope t.name then b.endImplied.popThroughNamed t.name
      else b)
  | .form => .taken (endForm b)
  | .paragraph =>
    -- the end of a paragraph that is not open makes an empty one
    let b := if b.inScopeNamed Name.endsButtonScope "p" then b else b.openImplied "p"
    .taken b.endParagraph
  | .listItem =>
    .taken (if b.inScopeNamed Name.endsListScope t.name then
        (b.endImpliedExcept t.name).popThroughNamed t.name
      else b)
  | .definition =>
    .taken (if b.inScopeNamed Name.endsScope t.name then
        (b.endImpliedExcept t.name).popThroughNamed t.name
      else b)
  | .heading =>
    .taken (if b.inScope Name.endsScope (·.name.isHeading) then
        b.endImplied.popThrough Name.isHeading
      else b)
  | .formatting => .taken (b.endFormatting t.name)
  | .embedded =>
    .taken (if b.inScopeNamed Name.endsScope t.name then
        (b.endImplied.popThroughNamed t.name).clearFormatting
      else b)
  | .lineBreak => .taken (noFrameset (addVoid b { name := "br" }))
  | .other => .taken (b.endTagInBody t.name)

/-- A character in the body. Null characters are dropped; all but white space can be seen. -/
def charInBody (b : Builder) (c : Char) : Builder :=
  if c = '\x00' then b
  else
    let b := b.reopenFormatting
    (if isSpace c then b else noFrameset b).insertChar c

/-- The rules for the body, which other rules fall back on. -/
def inBody (b : Builder) : Token → Outcome
  | .char c => .taken (charInBody b c)
  | .comment s => .taken (b.insertComment s)
  | .startTag t => startInBody b t
  | .endTag t => endInBody b t
  | .ending => atEnd b
  | .doctype _ | .fault => .taken b

/-- The rules for the text of an element that holds only text, which ends with the first end tag. -/
def text (b : Builder) : Token → Outcome
  | .char c => .taken (b.insertChar c)
  | .endTag _ => .taken (b.pop.withMode b.returnMode)
  | .ending => .left (b.pop.withMode b.returnMode)
  | .comment _ | .startTag _ | .doctype _ | .fault => .taken b

end Rules

end PagePatch.Html
