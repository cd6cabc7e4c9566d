import PagePatch.Html.Builder

namespace PagePatch.Html

/-!
# Formatting elements

Elements such as `b` and `i` go on in the next block when a block ends before them, and may overlap
with blocks.

* `Builder.reopenFormatting` — opens again the formatting elements that a block cut off;
* `Builder.openFormatting` — opens a formatting element;
* `Builder.endTagInBody` — an end tag with no rule of its own;
* `Builder.endFormatting` — the end tag of a formatting element, which may move nodes about.
-/

namespace Formatting

/-- Whether an entry is the formatting element in `slot`. -/
def holds (slot : Nat) : Formatting → Bool
  | marker => false
  | element n _ => n == slot

/-- Whether an entry is a `marker`, at which a search for a formatting element ends. -/
def isMarker : Formatting → Bool
  | marker => true
  | element .. => false

/-- Whether an entry is a formatting element of the name `name`. -/
def isNamed (name : String) : Formatting → Bool
  | marker => false
  | element _ tag => tag.name == name

/-- Whether an entry is a formatting element of the same tag as `tag`, with the same attributes in
    any order. -/
def isLike (tag : Tag) : Formatting → Bool
  | marker => false
  | element _ t => t.name == tag.name && Attributes.ofList t.attributes == .ofList tag.attributes

end Formatting

namespace Builder

/-- Puts a `marker` in front of the list: a border that formatting elements do not reach across. The
    start of a cell, a caption, a template or an embedded object does so. -/
def markFormatting (b : Builder) : Builder :=
  { b with formatting := .marker :: b.formatting }

/-- Drops the formatting elements up to the last marker, and it: the border that `markFormatting`
    drew is gone. -/
def clearFormatting (b : Builder) : Builder :=
  { b with formatting := (b.formatting.dropWhile (!·.isMarker)).drop 1 }

/-- Drops the entry of the formatting element in `slot`, so that it is not opened again. -/
def removeFormatting (b : Builder) (slot : Nat) : Builder :=
  { b with formatting := b.formatting.filter (!·.holds slot) }

/-- Whether an entry is a marker or an element that is open in `b`, so that it need not be opened
    again. -/
def isSettled (b : Builder) : Formatting → Bool
  | .marker => true
  | .element n _ => b.opened.any (·.slot == n)

/-- Opens again the formatting elements that a block cut off: the entries behind the last one that
    `isSettled`, in their order. -/
def reopenFormatting (b : Builder) : Builder :=
  -- the last entry comes first in the list, so that the ones to be opened are at its front
  let settled := b.formatting.dropWhile (!b.isSettled ·)
  (b.formatting.takeWhile (!b.isSettled ·)).reverse.foldl
    (fun b entry =>
      match entry with
      | .marker => b
      | .element _ tag =>
        let (b, n) := b.insertElement tag.element
        { b with formatting := .element n tag :: b.formatting })
    { b with formatting := settled }

/-- The list `formatting` without the first entry since the last marker that `isLike tag`, if there
    are three or more of them. -/
def limitFormatting (tag : Tag) (formatting : List Formatting) : List Formatting :=
  let recent := formatting.takeWhile (!·.isMarker)
  if 3 ≤ recent.countP (·.isLike tag) then
    (recent.reverse.eraseP (·.isLike tag)).reverse ++ formatting.dropWhile (!·.isMarker)
  else formatting

/-- Opens the formatting element of `tag` and adds an entry for it. -/
def openFormatting (b : Builder) (tag : Tag) : Builder :=
  let (b, n) := { b with formatting := limitFormatting tag b.formatting }.insertElement tag.element
  { b with formatting := .element n tag :: b.formatting }

/-- An end tag with no rule of its own ends the open elements up to the one of its `name`, unless
    one that `isSpecial` comes first. -/
def endTagInBody (b : Builder) (name : String) : Builder :=
  go b.opened
where
  /-- The same for a list of open elements. -/
  go : List Open → Builder
    | [] => b
    | o :: outer =>
      if o.name.isHtml name then { b with opened := outer }
      else if o.name.isSpecial then b
      else go outer

/-! ### End tags of formatting elements -/

/-- Where the new entry of a formatting element goes when `splitFormatting` has split it. -/
inductive Bookmark where
  /-- In the place of the old one. -/
  | replace
  /-- Behind the entry of a slot. -/
  | after (slot : Nat)
  deriving DecidableEq, Repr

/-- What is left when the elements between a formatting element and a block inside it have been
    split: the result of `splitBetween`. -/
structure Split where
  /-- The state. -/
  builder : Builder
  /-- The new open elements, the innermost first. -/
  opened : List Open := []
  /-- The outermost node that is moved along. -/
  last : Nat
  /-- Where the new entry goes. -/
  bookmark : Bookmark := .replace

/-- The tag of the formatting element in `slot`; nothing for an element without an entry. -/
def formattingTag? (b : Builder) (slot : Nat) : Option Tag :=
  b.formatting.findSome? fun
    | .marker => none
    | .element n tag => if n == slot then some tag else none

/-- The list `formatting` with `entry` in the place of the one for `slot`. -/
def replaceFormatting (formatting : List Formatting) (slot : Nat) (entry : Formatting) :
    List Formatting :=
  formatting.map fun f => if f.holds slot then entry else f

/-- Splits the elements between a formatting element and the block in the slot `block`; they are
    given with the innermost first. Each of the first three that is a formatting element is made
    anew around what was moved before it; the others are not open any more. -/
def splitBetween (block : Nat) : Nat → Split → List Open → Split
  | _, s, [] => s
  | count, s, o :: outer =>
    let b := s.builder
    -- from the fourth on an element also loses its entry, and is not opened again
    if 3 < count then
      splitBetween block (count + 1) { s with builder := b.removeFormatting o.slot } outer
    else
      match b.formattingTag? o.slot with
      | none => splitBetween block (count + 1) s outer
      | some tag =>
        -- the new element takes the entry of the old one and what has been moved so far
        let (b, n) := b.createElement tag.element
        let b := { b with
          formatting := replaceFormatting b.formatting o.slot (.element n tag)
          store := b.store.append n s.last }
        splitBetween block (count + 1)
          { builder := b
            opened := s.opened ++ [⟨n, .html, tag.name⟩]
            last := n
            bookmark := if s.last = block then .after n else s.bookmark }
          outer

/-- The list `formatting` with `entry` for a split formatting element, which stood in `slot`. -/
def rebook (formatting : List Formatting) (slot : Nat) (bookmark : Bookmark)
    (entry : Formatting) : List Formatting :=
  match bookmark with
  | .replace => replaceFormatting formatting slot entry
  | .after n =>
    (formatting.flatMap fun f => if f.holds n then [entry, f] else [f]).filter (!·.holds slot)

/-- Splits the formatting element of `tag` in `slot`, which ends inside `block`. `inner` are the
    open elements inside the block, `between` those around it up to the formatting element, and
    `outer` those around that one, each with the innermost first. -/
def splitFormatting (b : Builder) (slot : Nat) (tag : Tag) (inner : List Open) (block : Open)
    (between outer : List Open) : Builder :=
  let s := splitBetween block.slot 1 { builder := b, last := block.slot } between
  let b := s.builder
  let b := { b with store := b.store.detach s.last }
  let b :=
    -- the block, with what was made anew around it, moves behind the formatting element
    match outer.head? with
    | some around => b.put (b.placeIn around) s.last
    | none => b
  -- all that stood in the block stands in a new formatting element in it
  let (b, n) := b.createElement tag.element
  { b with
    store := (b.store.moveChildren block.slot n).append block.slot n
    formatting := rebook b.formatting slot s.bookmark (.element n tag)
    opened := inner ++ ⟨n, .html, tag.name⟩ :: block :: s.opened ++ outer }

/-- Splits a list of open elements at the last one for which `p` holds: what stands before it, it,
    and what follows. -/
def splitLast (p : Open → Bool) (os : List Open) : Option (List Open × Open × List Open) :=
  match os.reverse.dropWhile (!p ·) with
  | [] => none
  | o :: before => some (before.reverse, o, (os.reverse.takeWhile (!p ·)).reverse)

/-- One round of ending the formatting element `name`; `true` if there may be another one. -/
def endFormattingOnce (b : Builder) (name : String) : Builder × Bool :=
  match (b.formatting.takeWhile (!·.isMarker)).find? (·.isNamed name) with
  | none | some .marker => (b.endTagInBody name, false)
  | some (.element slot tag) =>
    match b.opened.dropWhile (·.slot ≠ slot) with
    | [] => (b.removeFormatting slot, false)
    | _ :: outer =>
      if !b.inScope Name.endsScope (·.slot == slot) then (b, false)
      else
        -- without a block in it the element just ends, as any other does
        match splitLast (·.name.isSpecial) (b.opened.takeWhile (·.slot ≠ slot)) with
        | none => ({ b with opened := outer }.removeFormatting slot, false)
        | some (inner, block, between) =>
          (b.splitFormatting slot tag inner block between outer, true)

/-- Up to a number of rounds of ending the formatting element `name`, as long as `endFormattingOnce`
    asks for another one. -/
def endFormattingRounds (name : String) : Nat → Builder → Builder
  | 0, b => b
  | rounds + 1, b =>
    let (b, again) := b.endFormattingOnce name
    if again then endFormattingRounds name rounds b else b

/-- The end tag of the formatting element `name`: it ends the innermost open element, if that has
    the name and no entry, and else takes up to eight rounds. -/
def endFormatting (b : Builder) (name : String) : Builder :=
  let bare := b.opened.head?.any fun o =>
    o.name.isHtml name && (b.formattingTag? o.slot).isNone
  if bare then b.pop else endFormattingRounds name 8 b

end Builder

end PagePatch.Html
