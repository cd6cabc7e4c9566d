import PagePatch.Html.Formatting

namespace PagePatch.Html

/-!
# Rules for the head

* `Outcome` — what a set of rules does with a token;
* `Rules.inHead` — the rules for the head, which other rules use for the tags at home there;
* `Rules.atEnd` — the end of the text.
-/

/-- What a set of rules does with a token: `Builder.steps` goes on until it is taken. -/
inductive Outcome where
  /-- The token is done with. -/
  | taken (b : Builder)
  /-- The token is left to the rules that are now in force. -/
  | left (b : Builder)

namespace Rules

/-- Gives the outermost element the attributes of a further `html` tag, those it has already apart.
    In a template the tag does nothing. -/
def mergeRoot (b : Builder) (t : Tag) : Builder :=
  match b.outermost? with
  | some o =>
    if b.hasOpen "template" then b
    else { b with store := b.store.addMissing o.slot t.attributes }
  | none => b

/-- The end of the text: open templates end first, one after the other. -/
def atEnd (b : Builder) : Outcome :=
  if b.hasOpen "template" then
    let b := (b.popThroughNamed "template").clearFormatting
    .left { b with templateModes := b.templateModes.drop 1 }.resetMode
  else .taken b

/-- The start of a template. What comes next goes into its content, by the rules that its first tag
    calls for. -/
def startTemplate (b : Builder) (t : Tag) : Builder :=
  let b := (b.openTag t).markFormatting
  { b with
    framesetOk := false
    mode := .inTemplate
    templateModes := .inTemplate :: b.templateModes }

/-- The end of the innermost open template, with all that is open in it; without one the tag does
    nothing. -/
def endTemplate (b : Builder) : Builder :=
  if b.hasOpen "template" then
    let b := ((b.popWhile Name.endsWithTemplate).popThroughNamed "template").clearFormatting
    { b with templateModes := b.templateModes.drop 1 }.resetMode
  else b

/-- The end of the head by a token that has no place there, which is left to the rules of
    `.afterHead`. -/
def leaveHead (b : Builder) : Outcome :=
  .left (b.pop.withMode .afterHead)

/-- A start tag in the head. The rules for the body come here, too, for the tags of `headNames`. -/
def startInHead (b : Builder) (t : Tag) : Outcome :=
  match t.name with
  | "html" => .taken (mergeRoot b t)
  | "base" | "basefont" | "bgsound" | "link" | "meta" => .taken (b.addTag t)
  | "title" => .taken (b.openText t .rcdata)
  | "noframes" | "style" | "noscript" => .taken (b.openText t .rawtext)
  | "script" => .taken (b.openText t .script)
  | "template" => .taken (startTemplate b t)
  | "head" => .taken b
  | _ => leaveHead b

/-- The rules for the head: what has no place there ends it. -/
def inHead (b : Builder) : Token → Outcome
  | .char c => if isSpace c then .taken (b.insertChar c) else leaveHead b
  | .comment s => .taken (b.insertComment s)
  | .startTag t => startInHead b t
  | .endTag t =>
    match t.name with
    | "head" => .taken (b.pop.withMode .afterHead)
    | "body" | "html" | "br" => leaveHead b
    | "template" => .taken (endTemplate b)
    | _ => .taken b
  | .ending => leaveHead b
  | .doctype _ | .fault => .taken b

/-- The tags at home in the head that are also read elsewhere, by `startInHead`. -/
def headNames : List String :=
  ["base", "basefont", "bgsound", "link", "meta", "noframes", "script", "style", "template",
   "title"]

end Rules

end PagePatch.Html
