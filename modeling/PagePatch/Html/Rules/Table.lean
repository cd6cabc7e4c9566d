import PagePatch.Html.Rules.Body

namespace PagePatch.Html.Rules

/-!
# Rules for tables

What a table cannot hold goes in front of it. Parts of a table that have no tags are added.
-/

/-- Whether the open HTML element `name` is met inside the innermost table, or is that table. -/
def inTableScope (b : Builder) (name : String) : Bool :=
  b.inScopeNamed Name.endsTableScope name

/-- Reads the token `t` by the rules for the body. New nodes go in front of the table; see
    `Builder.fosterPlace`. -/
def foster (b : Builder) (t : Token) : Outcome :=
  match inBody { b with fostering := true } t with
  | .taken b => .taken { b with fostering := false }
  | .left b => .left { b with fostering := false }

/-- A start tag in a table. The parts that have no tag are made up: a column needs a group, a row or
    cell a group of rows. -/
def startInTable (b : Builder) (t : Tag) : Outcome :=
  let inner := b.popTo Name.endsTableScope
  match t.name with
  | "caption" => .taken ((inner.markFormatting.openTag t).withMode .inCaption)
  | "colgroup" => .taken ((inner.openTag t).withMode .inColumnGroup)
  | "col" => .left ((inner.openImplied "colgroup").withMode .inColumnGroup)
  | "tbody" | "tfoot" | "thead" => .taken ((inner.openTag t).withMode .inTableBody)
  | "td" | "th" | "tr" => .left ((inner.openImplied "tbody").withMode .inTableBody)
  | "table" =>
    -- a table directly in a table ends the one around it
    if inTableScope b "table" then .left (b.popThroughNamed "table").resetMode else .taken b
  | "style" | "script" | "template" => startInHead b t
  | "input" => if t.isHidden then .taken (b.addTag t) else foster b (.startTag t)
  | "form" =>
    if b.hasOpen "template" || b.form.isSome then .taken b
    else
      let (b, n) := b.insertClosed t.element
      .taken { b with form := some n }
  | _ => foster b (.startTag t)

/-- The rules for a table, outside its rows and groups. -/
def inTable (b : Builder) : Token → Outcome
  | .char c =>
    if b.currentIs Name.holdsNoText then
      .left { b with returnMode := b.mode, mode := .inTableText, tableText := [] }
    else foster b (.char c)
  | .comment s => .taken (b.insertComment s)
  | .startTag t => startInTable b t
  | .endTag t =>
    match t.name with
    | "table" =>
      .taken (if inTableScope b "table" then (b.popThroughNamed "table").resetMode else b)
    | "body" | "caption" | "col" | "colgroup" | "html" | "tbody" | "td" | "tfoot" | "th"
    | "thead" | "tr" => .taken b
    | "template" => .taken (endTemplate b)
    | _ => foster b (.endTag t)
  | .ending => atEnd b
  | .doctype _ | .fault => .taken b

/-- The text of a table gets its place: white space stays, other text goes in front. One character
    that is not white space decides for all of it. -/
def placeTableText (b : Builder) : Builder :=
  let blank := b.tableText.all isSpace
  -- the text was gathered with its last character in front
  let text := b.tableText.reverse
  let b := { b with tableText := [], fostering := !blank, mode := b.returnMode }
  let b := text.foldl (fun b c => if blank then b.insertChar c else charInBody b c) b
  { b with fostering := false }

/-- The rules for text in a table, which is gathered until something else comes. -/
def inTableText (b : Builder) : Token → Outcome
  | .char c => .taken (if c = '\x00' then b else { b with tableText := c :: b.tableText })
  | _ => .left (placeTableText b)

/-- Ends the caption, if one is open, and puts the rules for the table in force. -/
def endCaption (b : Builder) : Option Builder :=
  if inTableScope b "caption" then
    some ((b.endImplied.popThroughNamed "caption").clearFormatting.withMode .inTable)
  else none

/-- What comes of a token that ends some part of a table: it is left to the rules behind that part,
    and dropped if the part is not open. -/
def leaveTo (b : Builder) : Option Builder → Outcome
  | some ended => .left ended
  | none => .taken b

/-- The rules for a caption. Parts of the table end it; all else is read as in the body. -/
def inCaption (b : Builder) (t : Token) : Outcome :=
  match t with
  | .startTag tag =>
    if ["caption", "col", "colgroup", "tbody", "td", "tfoot", "th", "thead", "tr"].contains tag.name
    then leaveTo b (endCaption b)
    else inBody b t
  | .endTag tag =>
    match tag.name with
    | "caption" => .taken ((endCaption b).getD b)
    | "table" => leaveTo b (endCaption b)
    | "body" | "col" | "colgroup" | "html" | "tbody" | "td" | "tfoot" | "th" | "thead" | "tr" =>
      .taken b
    | _ => inBody b t
  | _ => inBody b t

/-- Ends the group of columns, if it is the innermost open element, and puts the rules for the table
    in force. -/
def endColumns (b : Builder) : Option Builder :=
  if b.currentNamed "colgroup" then some (b.pop.withMode .inTable) else none

/-- The rules for a group of columns. Whatever is no column ends it. -/
def inColumnGroup (b : Builder) (t : Token) : Outcome :=
  match t with
  | .char c => if isSpace c then .taken (b.insertChar c) else leaveTo b (endColumns b)
  | .comment s => .taken (b.insertComment s)
  | .startTag tag =>
    match tag.name with
    | "html" => .taken (mergeRoot b tag)
    | "col" => .taken (b.addTag tag)
    | "template" => .taken (startTemplate b tag)
    | _ => leaveTo b (endColumns b)
  | .endTag tag =>
    match tag.name with
    | "colgroup" => .taken ((endColumns b).getD b)
    | "col" => .taken b
    | "template" => .taken (endTemplate b)
    | _ => leaveTo b (endColumns b)
  | .ending => atEnd b
  | .doctype _ | .fault => .taken b

/-- Ends the innermost group of rows, with what is open in it, and puts the rules for the table in
    force. -/
def endRows (b : Builder) : Builder :=
  (b.popTo Name.holdsRows).pop.withMode .inTable

/-- What comes of a tag that ends the group of rows; without an open group it is dropped. -/
def leaveRows (b : Builder) : Outcome :=
  if b.inScope Name.endsTableScope (·.name.isIn ["table", "tbody", "tfoot"]) then
    .left (endRows b)
  else .taken b

/-- The rules for a group of rows. A cell outside a row gets one that is made up. -/
def inTableBody (b : Builder) (t : Token) : Outcome :=
  match t with
  | .startTag tag =>
    match tag.name with
    | "tr" => .taken (((b.popTo Name.holdsRows).openTag tag).withMode .inRow)
    | "th" | "td" => .left (((b.popTo Name.holdsRows).openImplied "tr").withMode .inRow)
    | "caption" | "col" | "colgroup" | "tbody" | "tfoot" | "thead" => leaveRows b
    | _ => inTable b t
  | .endTag tag =>
    match tag.name with
    | "tbody" | "tfoot" | "thead" =>
      .taken (if inTableScope b tag.name then endRows b else b)
    | "table" => leaveRows b
    | "body" | "caption" | "col" | "colgroup" | "html" | "td" | "th" | "tr" => .taken b
    | _ => inTable b t
  | _ => inTable b t

/-- Ends the row, if one is open, and puts the rules for the group of rows in force. -/
def endRow (b : Builder) : Option Builder :=
  if inTableScope b "tr" then some ((b.popTo Name.holdsCells).pop.withMode .inTableBody) else none

/-- The rules for a row. Each cell in it is a border for formatting elements. -/
def inRow (b : Builder) (t : Token) : Outcome :=
  match t with
  | .startTag tag =>
    match tag.name with
    | "th" | "td" =>
      .taken (((b.popTo Name.holdsCells).openTag tag).markFormatting.withMode .inCell)
    | "caption" | "col" | "colgroup" | "tbody" | "tfoot" | "thead" | "tr" =>
      leaveTo b (endRow b)
    | _ => inTable b t
  | .endTag tag =>
    match tag.name with
    | "tr" => .taken ((endRow b).getD b)
    | "table" => leaveTo b (endRow b)
    | "tbody" | "tfoot" | "thead" =>
      if inTableScope b tag.name then leaveTo b (endRow b) else .taken b
    | "body" | "caption" | "col" | "colgroup" | "html" | "td" | "th" => .taken b
    | _ => inTable b t
  | _ => inTable b t

/-- Ends the cell that is open, and the border for formatting elements that it drew. -/
def endCell (b : Builder) : Builder :=
  (b.endImplied.popThrough Name.isCell).clearFormatting.withMode .inRow

/-- The rules for a cell. Parts of the table end it; all else is read as in the body. -/
def inCell (b : Builder) (t : Token) : Outcome :=
  match t with
  | .startTag tag =>
    if ["caption", "col", "colgroup", "tbody", "td", "tfoot", "th", "thead", "tr"].contains tag.name
    then
      if b.inScope Name.endsTableScope (·.name.isCell) then .left (endCell b) else .taken b
    else inBody b t
  | .endTag tag =>
    match tag.name with
    | "td" | "th" =>
      .taken (if inTableScope b tag.name then
          (b.endImplied.popThroughNamed tag.name).clearFormatting.withMode .inRow
        else b)
    | "body" | "caption" | "col" | "colgroup" | "html" => .taken b
    | "table" | "tbody" | "tfoot" | "thead" | "tr" =>
      if inTableScope b tag.name then .left (endCell b) else .taken b
    | _ => inBody b t
  | _ => inBody b t

end PagePatch.Html.Rules
