import PagePatch.Html.Rules.Table

namespace PagePatch.Html.Rules

/-!
# Rules for lists of options and for templates
-/

/-- Whether the list of options is open in `b`, with nothing but options and their groups inside
    it. -/
def selectOpen (b : Builder) : Bool :=
  b.inScopeNamed Name.endsSelectScope "select"

/-- Ends the list of options with what is open in it. -/
def endSelect (b : Builder) : Builder :=
  (b.popThroughNamed "select").resetMode

/-- Ends the innermost open element if it is the HTML element `name`. -/
def popNamed (b : Builder) (name : String) : Builder :=
  if b.currentNamed name then b.pop else b

/-- The end of a group of options, and of the option that is open in it. -/
def endOptions (b : Builder) : Builder :=
  let b :=
    match b.opened with
    | o :: p :: _ => if o.name.isHtml "option" && p.name.isHtml "optgroup" then b.pop else b
    | _ => b
  popNamed b "optgroup"

/-- The rules for a list of options. Tags that have no place in one are dropped, with few
    exceptions. -/
def inSelect (b : Builder) : Token → Outcome
  | .char c => .taken (if c = '\x00' then b else b.insertChar c)
  | .comment s => .taken (b.insertComment s)
  | .startTag t =>
    match t.name with
    | "html" => .taken (mergeRoot b t)
    | "option" => .taken ((popNamed b "option").openTag t)
    | "optgroup" => .taken ((popNamed (popNamed b "option") "optgroup").openTag t)
    | "select" => .taken (if selectOpen b then endSelect b else b)
    | "input" | "keygen" | "textarea" => if selectOpen b then .left (endSelect b) else .taken b
    | "script" | "template" => startInHead b t
    | _ => .taken b
  | .endTag t =>
    match t.name with
    | "optgroup" => .taken (endOptions b)
    | "option" => .taken (popNamed b "option")
    | "select" => .taken (if selectOpen b then endSelect b else b)
    | "template" => .taken (endTemplate b)
    | _ => .taken b
  | .ending => atEnd b
  | .doctype _ | .fault => .taken b

/-- Whether the tag `name` of a table ends a list of options in it. -/
def endsSelectInTable (name : String) : Bool :=
  ["caption", "table", "tbody", "tfoot", "thead", "tr", "td", "th"].contains name

/-- The rules for a list of options in a table. Tags of the table end it; for all else `inSelect`
    decides. -/
def inSelectInTable (b : Builder) (t : Token) : Outcome :=
  match t with
  | .startTag tag => if endsSelectInTable tag.name then .left (endSelect b) else inSelect b t
  | .endTag tag =>
    if endsSelectInTable tag.name then
      if inTableScope b tag.name then .left (endSelect b) else .taken b
    else inSelect b t
  | _ => inSelect b t

/-- The rules for the content of a template that the start tag `name` shows it to have. -/
def contentMode (name : String) : Mode :=
  match name with
  | "caption" | "colgroup" | "tbody" | "tfoot" | "thead" => .inTable
  | "col" => .inColumnGroup
  | "tr" => .inTableBody
  | "td" | "th" => .inRow
  | _ => .inBody

/-- The rules for a template. Its first start tag decides under which rules the content is read from
    then on. -/
def inTemplate (b : Builder) : Token → Outcome
  | .char c => .taken (charInBody b c)
  | .comment s => .taken (b.insertComment s)
  | .startTag t =>
    if headNames.contains t.name then startInHead b t
    else
      let mode := contentMode t.name
      .left { b with mode, templateModes := mode :: b.templateModes.drop 1 }
  | .endTag t => .taken (if t.name = "template" then endTemplate b else b)
  | .ending => atEnd b
  | .doctype _ | .fault => .taken b

end PagePatch.Html.Rules
