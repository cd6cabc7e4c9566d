import PagePatch.Html.Rules.Body

namespace PagePatch.Html.Rules

/-!
# Rules for the outline of a page

What stands around and between the head and the body, and framesets.
-/

/-- Adds a comment at the end of the page, beside the `html` element. -/
def commentOnPage (b : Builder) (s : String) : Outcome :=
  .taken (b.insertCommentIn Builder.page s)

/-- Whether the end tag `name` counts as content where an element is still to come. Other end tags
    are dropped there. -/
def endsAsContent (name : String) : Bool :=
  ["head", "body", "html", "br"].contains name

/-- The rules at the start. Without a declaration in front of the content the page is a legacy
    page. -/
def initial (b : Builder) (t : Token) : Outcome :=
  let content : Outcome := .left { b with legacy := true, mode := .beforeHtml }
  match t with
  | .char c => if isSpace c then .taken b else content
  | .comment s => commentOnPage b s
  | .startTag _ | .endTag _ | .ending => content
  | .doctype _ | .fault => .taken b

/-- The rules in front of the `html` element, which is made up if its tag is missing. -/
def beforeHtml (b : Builder) (t : Token) : Outcome :=
  let content : Outcome := .left ((b.openRoot { name := "html" }).withMode .beforeHead)
  match t with
  | .char c => if isSpace c then .taken b else content
  | .comment s => commentOnPage b s
  | .startTag tag =>
    if tag.name = "html" then .taken ((b.openRoot tag).withMode .beforeHead) else content
  | .endTag tag => if endsAsContent tag.name then content else .taken b
  | .ending => content
  | .doctype _ | .fault => .taken b

/-- Opens the head by the tag `t` and notes its slot, for tags that come too late. -/
def openHead (b : Builder) (t : Tag) : Builder :=
  let (b, n) := b.insertElement t.element
  { b with head := some n, mode := .inHead }

/-- The rules in front of the head, which is made up if its tag is missing. -/
def beforeHead (b : Builder) (t : Token) : Outcome :=
  let content : Outcome := .left (openHead b { name := "head" })
  match t with
  | .char c => if isSpace c then .taken b else content
  | .comment s => .taken (b.insertComment s)
  | .startTag tag =>
    if tag.name = "html" then .taken (mergeRoot b tag)
    else if tag.name = "head" then .taken (openHead b tag)
    else content
  | .endTag tag => if endsAsContent tag.name then content else .taken b
  | .ending => content
  | .doctype _ | .fault => .taken b

/-- A tag at home in the head that comes behind it. The head is opened again for this one
    element. -/
def lateHeadTag (b : Builder) (t : Tag) : Outcome :=
  match b.head with
  | none => .taken b
  | some head =>
    let b := { b with opened := ⟨head, .html, "head"⟩ :: b.opened }
    -- the head is taken out by its slot, since the tag may have left an element open in it
    match startInHead b t with
    | .taken b => .taken (b.removeOpen head)
    | .left b => .left (b.removeOpen head)

/-- The rules behind the head. The body is made up if its tag is missing. -/
def afterHead (b : Builder) (t : Token) : Outcome :=
  let content : Outcome := .left ((b.openImplied "body").withMode .inBody)
  match t with
  | .char c => if isSpace c then .taken (b.insertChar c) else content
  | .comment s => .taken (b.insertComment s)
  | .startTag tag =>
    if headNames.contains tag.name then lateHeadTag b tag
    else
      match tag.name with
      | "html" => .taken (mergeRoot b tag)
      | "body" => .taken ((noFrameset (b.openTag tag)).withMode .inBody)
      | "frameset" => .taken ((b.openTag tag).withMode .inFrameset)
      | "head" => .taken b
      | _ => content
  | .endTag tag =>
    match tag.name with
    | "template" => .taken (endTemplate b)
    | "body" | "html" | "br" => content
    | _ => .taken b
  | .ending => content
  | .doctype _ | .fault => .taken b

/-- The rules behind the body. All but white space and comments goes back into it. -/
def afterBody (b : Builder) (t : Token) : Outcome :=
  let content : Outcome := .left (b.withMode .inBody)
  match t with
  | .char c => if isSpace c then .taken (charInBody b c) else content
  | .comment s =>
    -- a comment here stands behind the body, in the element around it
    .taken (b.insertCommentIn ((b.outermost?.map Open.slot).getD Builder.page) s)
  | .startTag tag => if tag.name = "html" then .taken (mergeRoot b tag) else content
  | .endTag tag =>
    if tag.name = "html" then .taken (if b.fragment then b else b.withMode .afterAfterBody)
    else content
  | .doctype _ | .fault | .ending => .taken b

/-- The rules behind the end of the page. All but white space and comments goes back into the
    body. -/
def afterAfterBody (b : Builder) (t : Token) : Outcome :=
  let content : Outcome := .left (b.withMode .inBody)
  match t with
  | .char c => if isSpace c then .taken (charInBody b c) else content
  | .comment s => commentOnPage b s
  | .startTag tag => if tag.name = "html" then .taken (mergeRoot b tag) else content
  | .endTag _ => content
  | .doctype _ | .fault | .ending => .taken b

/-- The end of the innermost frameset; the outermost element stays open. -/
def endFrameset (b : Builder) : Builder :=
  if b.opened.length = 1 then b
  else
    let b := b.pop
    if b.fragment || b.currentNamed "frameset" then b else b.withMode .afterFrameset

/-- The rules for a frameset, which holds frames and framesets only. -/
def inFrameset (b : Builder) : Token → Outcome
  | .char c => .taken (if isSpace c then b.insertChar c else b)
  | .comment s => .taken (b.insertComment s)
  | .startTag t =>
    match t.name with
    | "html" => .taken (mergeRoot b t)
    | "frameset" => .taken (b.openTag t)
    | "frame" => .taken (b.addTag t)
    | "noframes" => startInHead b t
    | _ => .taken b
  | .endTag t => .taken (if t.name = "frameset" then endFrameset b else b)
  | .doctype _ | .fault | .ending => .taken b

/-- The rules behind a frameset. There is no way back into it. -/
def afterFrameset (b : Builder) : Token → Outcome
  | .char c => .taken (if isSpace c then b.insertChar c else b)
  | .comment s => .taken (b.insertComment s)
  | .startTag t =>
    match t.name with
    | "html" => .taken (mergeRoot b t)
    | "noframes" => startInHead b t
    | _ => .taken b
  | .endTag t => .taken (if t.name = "html" then b.withMode .afterAfterFrameset else b)
  | .doctype _ | .fault | .ending => .taken b

/-- The rules behind the end of a page with a frameset. -/
def afterAfterFrameset (b : Builder) : Token → Outcome
  | .char c => .taken (if isSpace c then charInBody b c else b)
  | .comment s => commentOnPage b s
  | .startTag t =>
    match t.name with
    | "html" => .taken (mergeRoot b t)
    | "noframes" => startInHead b t
    | _ => .taken b
  | .endTag _ | .doctype _ | .fault | .ending => .taken b

end PagePatch.Html.Rules
