import PagePatch.Html.Node

namespace PagePatch.Html

/-!
# Store of nodes

While a tree is built its nodes move about, so they are kept in numbered slots that name each other.

* `Store` — the slots;
* `create`, `detach`, `append`, `insertBefore`, `moveChildren` — what is done to them;
* `Store.children` — the trees below a slot.
-/

/-- What a slot of a `Store` holds. -/
inductive Item where
  /-- The top of the page, or the content of a template. -/
  | root
  | element (e : Element)
  | text (s : String)
  | comment (s : String)
  | doctype (name : String)
  deriving DecidableEq, Repr

/-- A slot: a node with the slots around it. `parent` and `children` of two slots name each other,
    which `append` and `detach` keep up. -/
structure Slot where
  /-- What it holds. -/
  item : Item
  /-- The slot that it stands in. -/
  parent : Option Nat := none
  /-- The slots that stand in it, the last first. -/
  children : List Nat := []
  /-- The slot of the content, for a template. -/
  content : Option Nat := none
  deriving DecidableEq, Repr

/-- Numbered slots. A slot is never given up, only detached, so that a number stays good while nodes
    move about. -/
structure Store where
  /-- The slots by number. -/
  slots : Array Slot := #[]
  deriving DecidableEq, Repr

namespace Store

/-- The slot of the number `n`, if the store has that many. -/
def slot? (s : Store) (n : Nat) : Option Slot :=
  s.slots[n]?

/-- Changes the slot `n` by `f`; without such a slot nothing changes. -/
def modify (s : Store) (n : Nat) (f : Slot → Slot) : Store :=
  { s with slots := s.slots.modify n f }

/-- A new slot for `item` that stands nowhere yet, and its number. -/
def create (s : Store) (item : Item) : Store × Nat :=
  ({ s with slots := s.slots.push { item } }, s.slots.size)

/-- A new slot for the element `e`, and its number. For a `template` there is a second slot, the
    `content` of the first. -/
def createElement (s : Store) (e : Element) : Store × Nat :=
  if e.space == .html && e.name == "template" then
    let (s, content) := s.create .root
    ({ s with slots := s.slots.push { item := .element e, content := some content } },
      s.slots.size)
  else s.create (.element e)

/-- The parent of the slot `n`; none for a slot that stands nowhere. -/
def parent? (s : Store) (n : Nat) : Option Nat :=
  (s.slot? n).bind Slot.parent

/-- The slots that stand in the slot `n`, the last first. -/
def childrenOf (s : Store) (n : Nat) : List Nat :=
  ((s.slot? n).map Slot.children).getD []

/-- Where new children of the slot `n` go: its `content`, if it holds a template, and else the slot
    itself. -/
def contentOf (s : Store) (n : Nat) : Nat :=
  ((s.slot? n).bind Slot.content).getD n

/-- Takes the slot `n` out of its parent. What stands in it stays in it. -/
def detach (s : Store) (n : Nat) : Store :=
  match s.parent? n with
  | none => s
  | some p =>
    (s.modify p fun slot => { slot with children := slot.children.filter (· ≠ n) }).modify n
      fun slot => { slot with parent := none }

/-- Moves the slot `n` to the end of the slot `parent`, out of where it stood before. -/
def append (s : Store) (parent n : Nat) : Store :=
  ((s.detach n).modify parent fun slot => { slot with children := n :: slot.children }).modify n
    fun slot => { slot with parent := some parent }

/-- The list `ns` with the number `n` behind `sibling`. In the reversed lists of `Slot.children`
    this is in front of it. -/
def insertBehind (sibling n : Nat) : List Nat → List Nat
  | [] => [n]
  | m :: rest => if m = sibling then m :: n :: rest else m :: insertBehind sibling n rest

/-- Moves the slot `n` in front of `sibling`. If `sibling` stands nowhere, `n` stands nowhere
    either. -/
def insertBefore (s : Store) (sibling n : Nat) : Store :=
  let s := s.detach n
  match s.parent? sibling with
  | none => s
  | some p =>
    (s.modify p fun slot => { slot with children := insertBehind sibling n slot.children }).modify
      n fun slot => { slot with parent := some p }

/-- Whether the slot `n` holds a text, to which a further character can be added. -/
def isText (s : Store) (n : Nat) : Bool :=
  match (s.slot? n).map Slot.item with
  | some (.text _) => true
  | _ => false

/-- Adds the character `c` to the text in the slot `n`; another slot stays as it is. -/
def extendText (s : Store) (n : Nat) (c : Char) : Store :=
  s.modify n fun slot =>
    match slot with
    | { item := .text t, parent, children, content } =>
      { item := .text (t.push c), parent, children, content }
    | slot => slot

/-- Adds the character `c` at the end of the slot `parent`: to the text it ends with, or as a new
    text. -/
def appendChar (s : Store) (parent : Nat) (c : Char) : Store :=
  match (s.childrenOf parent).head?.filter s.isText with
  | some n => s.extendText n c
  | none =>
    let (s, n) := s.create (.text (String.singleton c))
    s.append parent n

/-- The number behind `sibling` in a list. In the reversed lists of `Slot.children` this is the one
    in front of it. -/
def behind? (sibling : Nat) (ns : List Nat) : Option Nat :=
  ((ns.dropWhile (· ≠ sibling)).drop 1).head?

/-- Adds the character `c` in front of the slot `sibling`: to the text that stands there, or as a
    new text. -/
def insertCharBefore (s : Store) (sibling : Nat) (c : Char) : Store :=
  let siblings := ((s.parent? sibling).map s.childrenOf).getD []
  match (behind? sibling siblings).filter s.isText with
  | some n => s.extendText n c
  | none =>
    let (s, n) := s.create (.text (String.singleton c))
    s.insertBefore sibling n

/-- Moves all children of the slot `source` to the end of `target`, in their order. -/
def moveChildren (s : Store) (source target : Nat) : Store :=
  (s.childrenOf source).reverse.foldl (fun s n => s.append target n) s

/-- Gives the element in the slot `n` those of the attributes `as` that it lacks; another slot stays
    as it is. -/
def addMissing (s : Store) (n : Nat) (as : List Attribute) : Store :=
  s.modify n fun slot =>
    match slot.item with
    | .element e =>
      { slot with item := .element { e with attributes := e.attributes.addMissing as } }
    | _ => slot

/-- The trees below a slot, for a number of levels. Their elements stand for no region yet.

    Only the `children` of a slot are gone through, never its `content`: what is written in a
    `template` element is no part of the page. It has no address, no id and no markup there, and a
    template is written as `<template></template>` unless something was appended to it later. -/
def childTrees (s : Store) : Nat → Nat → List Node
  | 0, _ => []
  | levels + 1, n =>
    (s.childrenOf n).reverse.filterMap fun m =>
      match (s.slot? m).map Slot.item with
      | some (.element e) => some (.element { e with region := none } (s.childTrees levels m))
      | some (.text t) => some (.text t)
      | some (.comment t) => some (.comment t)
      | some (.doctype name) => some (.doctype name)
      | some .root | none => none

/-- The trees below the slot `n`. No tree has more levels than there are slots, so `childTrees` gets
    to the leaves. -/
def children (s : Store) (n : Nat) : List Node :=
  s.childTrees s.slots.size n

end Store

end PagePatch.Html
