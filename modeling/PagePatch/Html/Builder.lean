import PagePatch.Html.Category
import PagePatch.Html.Foreign
import PagePatch.Html.Lexer
import PagePatch.Html.Store

namespace PagePatch.Html

/-!
# Builder of trees

* `Mode` — the set of rules that the next token falls under;
* `Open` — an element that has not ended yet;
* `Builder` — the state of tree building: the nodes, the open elements, the formatting elements;
* looking at the open elements and ending them;
* `Builder.insertElement`, `Builder.insertChar`, `Builder.insertComment` — new nodes in their place;
* `Builder.resetMode` — the rules that the open elements call for.
-/

/-- The set of rules that the next token falls under; `Builder.byMode` dispatches on it. -/
inductive Mode where
  | initial
  | beforeHtml
  | beforeHead
  | inHead
  | afterHead
  | inBody
  | text
  | inTable
  | inTableText
  | inCaption
  | inColumnGroup
  | inTableBody
  | inRow
  | inCell
  | inSelect
  | inSelectInTable
  | inTemplate
  | afterBody
  | inFrameset
  | afterFrameset
  | afterAfterBody
  | afterAfterFrameset
  deriving DecidableEq, Repr

/-- An element that has not ended yet: the next nodes go into the innermost of these. -/
structure Open where
  /-- Its slot. -/
  slot : Nat
  /-- Its name. -/
  name : Name
  deriving DecidableEq, Repr

/-- A place in the list of formatting elements, which `Builder.reopenFormatting` goes through. -/
inductive Formatting where
  /-- Formatting elements do not reach across this. -/
  | marker
  /-- A formatting element, with the tag that it came from. -/
  | element (slot : Nat) (tag : Tag)
  deriving DecidableEq, Repr

/-- The state of tree building. Every rule of the parser maps a `Builder` and a token to the next
    one. -/
structure Builder where
  /-- The nodes. -/
  store : Store := {}
  /-- The rules in force. -/
  mode : Mode := .initial
  /-- The rules that follow on those of `.text` or `.inTableText`. -/
  returnMode : Mode := .initial
  /-- The rules for the content of the open templates, the innermost first. -/
  templateModes : List Mode := []
  /-- The elements that have not ended yet, the innermost first. -/
  opened : List Open := []
  /-- The formatting elements, the last first. -/
  formatting : List Formatting := []
  /-- The slot of the head. -/
  head : Option Nat := none
  /-- The slot of the form that controls belong to. -/
  form : Option Nat := none
  /-- Whether a frameset can still take the place of the body. -/
  framesetOk : Bool := true
  /-- Whether misplaced content of a table goes in front of it. -/
  fostering : Bool := false
  /-- Whether a line feed that comes next is dropped. -/
  skipNewline : Bool := false
  /-- Whether the page is a legacy page. -/
  legacy : Bool := false
  /-- Text of a table that has no place yet. -/
  tableText : List Char := []
  /-- Whether a fragment is built and not a page. -/
  fragment : Bool := false
  /-- How the text behind the tag just read is cut, if that changes; `readText` hands it to the
      lexer. -/
  lexing : Option LexMode := none
  deriving Repr

namespace Builder

/-- The slot of the page itself: the first one that is created, below which all others stand in the
    end. `parsePage` reads off its children. -/
def page : Nat := 0

/-- The state `b` with the rules `mode` in force from the next token on. -/
def withMode (b : Builder) (mode : Mode) : Builder :=
  { b with mode }

/-! ### Open elements -/

/-- The name of the innermost open element, which is the first of `b.opened`. -/
def current? (b : Builder) : Option Name :=
  b.opened.head?.map Open.name

/-- Whether the innermost open element is in the category `p`; without an open element it is in
    none. -/
def currentIs (b : Builder) (p : Name → Bool) : Bool :=
  b.current?.any p

/-- Whether the innermost open element is the HTML element `name`. -/
def currentNamed (b : Builder) (name : String) : Bool :=
  b.currentIs (·.isHtml name)

/-- Whether some open element is the HTML element `name`, whatever scopes end in between. -/
def hasOpen (b : Builder) (name : String) : Bool :=
  b.opened.any (·.name.isHtml name)

/-- Whether an open element for which `p` holds is met before the end of a scope: before one for
    which `ends` holds, seen from the innermost. -/
def inScope (b : Builder) (ends : Name → Bool) (p : Open → Bool) : Bool :=
  go b.opened
where
  /-- The same for a list of open elements. -/
  go : List Open → Bool
    | [] => false
    -- an element that ends the scope is itself looked at
    | o :: rest => p o || (!ends o.name && go rest)

/-- Whether the open HTML element `name` is met before the end of a scope; see `inScope`. -/
def inScopeNamed (b : Builder) (ends : Name → Bool) (name : String) : Bool :=
  b.inScope ends (·.name.isHtml name)

/-- Ends the innermost open element. Its nodes stay in `b.store`; only what comes next goes
    elsewhere. -/
def pop (b : Builder) : Builder :=
  { b with opened := b.opened.drop 1 }

/-- Ends the open elements up to one of the category `p`; that one stays open. Without such an
    element all end. -/
def popTo (b : Builder) (p : Name → Bool) : Builder :=
  { b with opened := b.opened.dropWhile (!p ·.name) }

/-- Ends the open elements up to one of the category `p`, that one included. -/
def popThrough (b : Builder) (p : Name → Bool) : Builder :=
  (b.popTo p).pop

/-- Ends the open elements up to the HTML element `name`, that one included. -/
def popThroughNamed (b : Builder) (name : String) : Builder :=
  b.popThrough (·.isHtml name)

/-- Ends the innermost open elements as long as they are of the category `p`. -/
def popWhile (b : Builder) (p : Name → Bool) : Builder :=
  b.popTo (!p ·)

/-- Ends the innermost open elements whose end tags can be left out, by `Name.endsByItself`. -/
def endImplied (b : Builder) : Builder :=
  b.popWhile Name.endsByItself

/-- Ends the innermost open elements whose end tags can be left out, up to the HTML element
    `name`. -/
def endImpliedExcept (b : Builder) (name : String) : Builder :=
  b.popWhile fun n => n.endsByItself && !n.isHtml name

/-- Ends the paragraph that is open, with all that is open in it. -/
def endParagraph (b : Builder) : Builder :=
  (b.endImpliedExcept "p").popThroughNamed "p"

/-- Ends the paragraph that is open, if there is one in its scope; the start of a block does so. -/
def endParagraphInScope (b : Builder) : Builder :=
  if b.inScopeNamed Name.endsButtonScope "p" then b.endParagraph else b

/-- Takes the element in `slot` out of the open elements, and leaves those inside it open. -/
def removeOpen (b : Builder) (slot : Nat) : Builder :=
  { b with opened := b.opened.filter (·.slot ≠ slot) }

/-- The outermost open element: the `html` element, once there is one. -/
def outermost? (b : Builder) : Option Open :=
  b.opened.getLast?

/-- The body of the page, if it is open. It can only be the second of `b.opened` from the
    outside. -/
def body? (b : Builder) : Option Open :=
  match b.opened.reverse with
  | _ :: o :: _ => if o.name.isHtml "body" then some o else none
  | _ => none

/-- The name that decides whether a token stands in another vocabulary. In a fragment the outermost
    element stands for a `template`. -/
def adjustedCurrent? (b : Builder) : Option Name :=
  if b.fragment && b.opened.length == 1 then some ⟨.html, "template"⟩ else b.current?

/-- Whether the innermost open element, by `adjustedCurrent?`, is outside the HTML vocabulary, so
    that the lexer knows character data. -/
def inForeign (b : Builder) : Bool :=
  b.adjustedCurrent?.any (·.space != .html)

/-! ### Places -/

/-- A place for a new node, as `put` takes it. -/
inductive Place where
  /-- At the end of a slot. -/
  | last (parent : Nat)
  /-- In front of a slot. -/
  | before (sibling : Nat)
  deriving DecidableEq, Repr

/-- The place of misplaced content of a table: at the end of the template around it, or in front
    of the table; at the end of the element around the table, if the table stands nowhere. -/
def fosterPlace (b : Builder) : Place :=
  go b.opened
where
  /-- The same for a list of open elements. -/
  go : List Open → Place
    | [] => .last ((b.outermost?.map Open.slot).getD page)
    | o :: rest =>
      if o.name.isHtml "template" then .last (b.store.contentOf o.slot)
      else if o.name.isHtml "table" then
        match b.store.parent? o.slot, rest.head? with
        | none, some around => .last around.slot
        | _, _ => .before o.slot
      else go rest

/-- The place of a new node in the open element `target`. In a part of a table it is a misplaced
    one, if the rules in force say so by `fostering`. -/
def placeIn (b : Builder) (target : Open) : Place :=
  if b.fostering && target.name.holdsNoText then b.fosterPlace
  else if target.name.isHtml "template" then .last (b.store.contentOf target.slot)
  else .last target.slot

/-- The place of a new node: in the innermost open element, or on the `page` itself. -/
def place (b : Builder) : Place :=
  match b.opened with
  | [] => .last page
  | target :: _ => b.placeIn target

/-- Puts the node in `slot` in a place, out of where it stood before. -/
def put (b : Builder) (place : Place) (slot : Nat) : Builder :=
  match place with
  | .last parent => { b with store := b.store.append parent slot }
  | .before sibling => { b with store := b.store.insertBefore sibling slot }

/-! ### New nodes -/

/-- Adds the character `c` of text at the `place` of a new node; characters in a row make one
    text. -/
def insertChar (b : Builder) (c : Char) : Builder :=
  match b.place with
  | .last parent => { b with store := b.store.appendChar parent c }
  | .before sibling => { b with store := b.store.insertCharBefore sibling c }

/-- A new slot for `item` that is in no place yet, and its number. -/
def create (b : Builder) (item : Item) : Builder × Nat :=
  let (store, n) := b.store.create item
  ({ b with store }, n)

/-- Adds a comment at the `place` of a new node. -/
def insertComment (b : Builder) (s : String) : Builder :=
  let (b, n) := b.create (.comment s)
  b.put b.place n

/-- Adds a comment at the end of `slot`, whatever is open. -/
def insertCommentIn (b : Builder) (slot : Nat) (s : String) : Builder :=
  let (b, n) := b.create (.comment s)
  b.put (.last slot) n

/-- A new slot for the element `e` that is in no place yet, and its number. -/
def createElement (b : Builder) (e : Element) : Builder × Nat :=
  let (store, n) := b.store.createElement e
  ({ b with store }, n)

/-- Adds the element `e` without opening it, and gives its slot. The place is that before the slot
    is made. -/
def insertClosed (b : Builder) (e : Element) : Builder × Nat :=
  let place := b.place
  let (b, n) := b.createElement e
  (b.put place n, n)

/-- Adds the element `e`, opens it, and gives its slot. What comes next goes into it. -/
def insertElement (b : Builder) (e : Element) : Builder × Nat :=
  let (b, n) := b.insertClosed e
  ({ b with opened := ⟨n, e.space, e.name⟩ :: b.opened }, n)

end Builder

/-- The HTML element of the start tag `t`. Of two attributes of one name the lexer has dropped the
    second. -/
def Tag.element (t : Tag) : Element :=
  { name := t.name, attributes := .ofList t.attributes }

namespace Builder

/-- Adds the HTML element of the start tag `t` and opens it. -/
def openTag (b : Builder) (t : Tag) : Builder :=
  (b.insertElement t.element).1

/-- Adds the HTML element of the start tag `t`, which has no content and so is never open. -/
def addTag (b : Builder) (t : Tag) : Builder :=
  (b.insertClosed t.element).1

/-- Adds the HTML element `name`, which has no tag in the text, and opens it. -/
def openImplied (b : Builder) (name : String) : Builder :=
  (b.insertElement { name }).1

/-- Adds the element of the start tag `t`, whose text is cut by `lexing`. The rules in force go on
    when it ends. -/
def openText (b : Builder) (t : Tag) (lexing : LexMode) : Builder :=
  { b.openTag t with returnMode := b.mode, mode := .text, lexing := some lexing }

/-- Adds the element of `t` on the page itself and opens it, whatever `place` a new node has. -/
def openRoot (b : Builder) (t : Tag) : Builder :=
  let (b, n) := b.createElement t.element
  { b.put (.last page) n with opened := ⟨n, .html, t.name⟩ :: b.opened }

/-! ### Modes -/

/-- The rules for a list of options inside the given elements. In a table its tags end the list of
    options, which is decided by what stands further out. -/
def selectMode : List Open → Mode
  | [] => .inSelect
  | o :: rest =>
    if o.name.isHtml "template" then .inSelect
    else if o.name.isHtml "table" then .inSelectInTable
    else selectMode rest

/-- The rules that the open element `name` calls for, if it decides. `outer` are the elements around
    it; `outermost` tells that there are none. -/
def modeOf? (b : Builder) (name : String) (outer : List Open) (outermost : Bool) : Option Mode :=
  match name with
  | "select" => some (selectMode outer)
  | "td" | "th" => if outermost then none else some .inCell
  | "tr" => some .inRow
  | "tbody" | "thead" | "tfoot" => some .inTableBody
  | "caption" => some .inCaption
  | "colgroup" => some .inColumnGroup
  | "table" => some .inTable
  | "template" => b.templateModes.head?
  | "head" => if outermost then none else some .inHead
  | "body" => some .inBody
  | "frameset" => some .inFrameset
  | "html" => some (if b.head.isSome then .afterHead else .beforeHead)
  | _ => none

/-- The rules that the given open elements call for: those of the innermost one that decides, and
    `inBody` if none does. -/
def modeFor (b : Builder) : List Open → Mode
  | [] => .inBody
  | o :: outer =>
    let outermost := outer.isEmpty
    -- a fragment is the content of a template, whatever its outermost element is
    let name : Name := if outermost && b.fragment then ⟨.html, "template"⟩ else o.name
    let mode := if name.space == .html then b.modeOf? name.name outer outermost else none
    match mode with
    | some mode => mode
    | none => b.modeFor outer

/-- Puts the rules in force that `modeFor` finds for the open elements, after several of them have
    ended at once. -/
def resetMode (b : Builder) : Builder :=
  b.withMode (b.modeFor b.opened)

end Builder

end PagePatch.Html
