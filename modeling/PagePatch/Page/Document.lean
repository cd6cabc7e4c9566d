import PagePatch.Change.Target
import PagePatch.Document.Basic
import PagePatch.Page.Basic

namespace PagePatch

/-!
# Pages as documents

* `Page.perform` — what a page makes of an instruction;
* `Page.performAll` — what it makes of several;
* `Page.document` — a page whose code does nothing;
* `ScriptHost` — what runs the code of a page, and `ScriptHost.document` — a page with a host.
-/

namespace Page

/-- Puts `f n` in the place of the element `n` that `id` leads to. This element always stands in
    something, be it the page itself (`editPlaced_eq`), so it is not asked whether it does. -/
def editElement (p : Page) (id : String) (f : Html.Node → List Html.Node) :
    Except Error Bool × Page :=
  match p.find? id with
  | some a => (.ok true, p.editAt f a)
  | none => (.error (.elementNotFound id), p)

/-- Removes the element that `id` leads to, and answers whether there was one. An id that the page
    lacks is no failure. -/
def removeElement (p : Page) (id : String) : Except Error Bool × Page :=
  match p.find? id with
  | some a => (.ok true, p.editAt (fun _ => []) a)
  | none => (.ok false, p)

/-- The element of a region with `attributes`, of which the last one of a name counts, and with
    `content` for its children. A node that is no element stays. -/
def renewRegion (attributes : List (String × String)) (content : List Html.Node) :
    Html.Node → Html.Node
  | .element e _ =>
    .element { e with attributes := attributes.foldl (fun as (n, v) => as.set n v) {} } content
  | n => n

/-- Gives the element of `region` the attributes and the content, wherever it is: in the trees of
    the page, or among those that were taken out of it. A page without an element for the region
    gets `content` for its trees. -/
def replaceRegion (p : Page) (region : Html.Region) (attributes : List (String × String))
    (content : List Html.Node) : Page :=
  let isRegion (e : Html.Element) : Bool := e.region == some region
  let renew (n : Html.Node) : List Html.Node := [renewRegion attributes content n]
  match Html.findAddress? isRegion p.nodes with
  | some a => p.editAt renew a
  | none =>
    match Html.findAddress? isRegion p.detached with
    | some a =>
      { p with detached := Html.editAt renew a p.detached, mutations := p.mutations + 1 }
    | none => p.withNodes content

/-- An element with `token` for its value, if it is a field for the view-state token, that is, if
    its name is `viewStateField`. -/
def withToken (token : String) (e : Html.Element) : Html.Element :=
  if e.attribute? "name" = some viewStateField then
    { e with attributes := e.attributes.set "value" token }
  else e

/-- The `name` with the letters A to Z in lower case, as the attributes of a page are named. -/
def lowerName (name : String) : String :=
  String.ofList (name.toList.map Char.toLower)

/-- What a page makes of the instruction `i`: its answer, or how it fails, and the page afterwards.
    An instruction that fails leaves the page as it is. -/
def perform (i : Instruction) (p : Page) : Except Error Bool × Page :=
  match i with
  | .replaceElement id markup => p.editElement id fun _ => Html.parseFragment markup
  | .replaceContent id markup =>
    p.editElement id fun n => [n.withChildren (Html.parseFragment markup)]
  | .insertAdjacent anchor .before markup =>
    p.editElement anchor fun n => Html.parseFragment markup ++ [n]
  | .insertAdjacent anchor .after markup =>
    p.editElement anchor fun n => n :: Html.parseFragment markup
  | .remove id => p.removeElement id
  | .setAttribute id name value =>
    p.editElement id fun n =>
      [n.mapElement fun e => { e with attributes := e.attributes.set (lowerName name) value }]
  | .replaceRegion region attributes markup =>
    (.ok true, p.replaceRegion region attributes (Html.parseFragment markup))
  | .runScript code => (.ok true, { p with executed := p.executed ++ [code] })
  | .loadScript address => (.ok true, { p with loaded := p.loaded ++ [address] })
  | .navigate url => (.ok true, { p with location := some url })
  | .updateViewState token =>
    (.ok true,
      { p with
        viewState := some token
        nodes := Html.Node.mapElementsOf (withToken token) p.nodes })

/-- The page after the instructions `is`, each of which is carried out whether or not those before
    it failed. -/
def performAll (p : Page) (is : List Instruction) : Page :=
  is.foldl (fun p i => (p.perform i).2) p

/-- A page as a document whose code does nothing: it is noted as run, and that is all. See
    `ScriptHost.document` for a page whose code is run. -/
def document : Document Page where
  contains := contains
  perform := perform

end Page

/-! ### Scripts -/

/-- What code does to the page that runs it: the instructions are performed first, and then the code
    fails if `failure` says so. -/
structure Reaction where
  /-- The instructions that it gives, in order. -/
  instructions : List Instruction := []
  /-- How it fails. -/
  failure : Option Error := none
  deriving DecidableEq, Repr

/-- What runs the code of a page: a host is told the code, the page that runs it and its own state
    in `σ`, and says what the code does to the page. -/
abbrev ScriptHost (σ : Type) := String → Page → σ → Reaction × σ

/-- A page as a document whose code is run by `host`. The code is noted first, so that the host gets
    to see the page with the note; the instructions of the code are then carried out on it. -/
def ScriptHost.document {σ : Type} (host : ScriptHost σ) : Document (Page × σ) where
  contains s id := s.1.contains id
  perform i s :=
    let (result, page) := s.1.perform i
    match i with
    | .runScript code =>
      let (reaction, state) := host code page s.2
      -- what the code did before it failed is not undone
      let result := match reaction.failure with
        | some e => .error e
        | none => result
      (result, page.performAll reaction.instructions, state)
    | _ => (result, page, s.2)

end PagePatch
