import PagePatch.Html.Address
import PagePatch.Html.Parse
import PagePatch.Html.Write

namespace PagePatch

/-!
# Pages

A page held in memory.

* `Page` — its trees, the index of its ids, and what happened to it apart from its markup;
* `Page.ofHtml` — the page of a text;
* `Page.find?` and `Page.node?` — the element of an id;
* `Page.html`, `Page.innerHtml?`, `Page.regionHtml` and their siblings — what can be seen of it;
* `Page.editAt` — a change to its trees.
-/

/-- The ids of the elements of `nodes` with their addresses, in document order. An element without
    an id, or whose id is the empty text, is left out; an id that two elements have is listed
    twice. -/
def idIndex (nodes : List Html.Node) : List (String × Html.Address) :=
  (Html.elementsAt nodes).filterMap fun (a, e) =>
    match e.id? with
    | some id => if id = "" then none else some (id, a)
    | none => none

/-- The first element of `nodes`, in document order, that is marked as the element of `region`. -/
def regionNode? (region : Html.Region) (nodes : List Html.Node) : Option Html.Node :=
  (Html.findAddress? (·.region == some region) nodes).bind (Html.nodeAt? · nodes)

/-- A page held in memory: the trees of its `nodes`, the regions that came off them, and what code
    has been run. -/
structure Page where
  /-- Its trees. -/
  nodes : List Html.Node := []
  /-- The trees of the regions that are no longer part of `nodes`. They are kept since an
      instruction can still renew them. -/
  detached : List Html.Node := []
  /-- The ids of its elements, with their addresses in document order: `idIndex` of its trees, kept
      so that `find?` need not walk them. -/
  ids : List (String × Html.Address) := []
  /-- How often its trees were changed, by whatever means. -/
  mutations : Nat := 0
  /-- The code it ran, in order. -/
  executed : List String := []
  /-- The addresses of code it loaded, in order. -/
  loaded : List String := []
  /-- Where it left for. -/
  location : Option String := none
  /-- The last view-state token that it took over. -/
  viewState : Option String := none
  deriving Repr

namespace Page

/-- The trees with the first element that has the name of `region` marked as the element of it. A
    page without such an element has no element for the region. -/
def markRegion (nodes : List Html.Node) (region : Html.Region) : List Html.Node :=
  match Html.findAddress? (·.name == region.name) nodes with
  | some a =>
    Html.editAt (fun n => [n.mapElement fun e => { e with region := some region }]) a nodes
  | none => nodes

/-- The page of a text: the trees that the parser makes of `html`, with head and body marked and the
    ids listed. -/
def ofHtml (html : String) : Page :=
  let nodes := markRegion (markRegion (Html.parsePage html) .head) .body
  { nodes, ids := idIndex nodes }

/-- The address of the first element that has `id`. It is looked up in `ids`, not in the trees. -/
def find? (p : Page) (id : String) : Option Html.Address :=
  p.ids.lookup id

/-- Whether an element that has `id` is part of the page. -/
def contains (p : Page) (id : String) : Bool :=
  (p.find? id).isSome

/-- The first element that has `id`, with all that it holds. -/
def node? (p : Page) (id : String) : Option Html.Node :=
  (p.find? id).bind (Html.nodeAt? · p.nodes)

/-- The element of `region`, be it among the trees of the page or among the `detached` ones. -/
def region? (p : Page) (region : Html.Region) : Option Html.Node :=
  (regionNode? region p.nodes).or (regionNode? region p.detached)

/-! ### What can be seen -/

/-- The markup of the page, written by `Html.Node.writeAll`. -/
def html (p : Page) : String :=
  Html.Node.writeAll p.nodes

/-- The number of nodes of the page. Regions that are no longer part of `nodes` do not count. -/
def nodeCount (p : Page) : Nat :=
  Html.Node.sizeOf p.nodes

/-- The markup in the first element of the id, if there is one. -/
def innerHtml? (p : Page) (id : String) : Option String :=
  (p.node? id).map fun n => Html.Node.writeAll n.children

/-- The markup of the first element of the id, with its own tags. -/
def outerHtml? (p : Page) (id : String) : Option String :=
  (p.node? id).map Html.Node.write

/-- The value of the attribute `name` of `n`; a node that is no element has none. -/
def attributeOf? (n : Html.Node) (name : String) : Option String :=
  n.element?.bind (·.attribute? name)

/-- The value of the attribute `name` of the first element called `id`. -/
def attribute? (p : Page) (id name : String) : Option String :=
  (p.node? id).bind (attributeOf? · name)

/-- The ids of the children of the element of `id`, in order. Children without an id are passed
    over. -/
def childIds (p : Page) (id : String) : List String :=
  (((p.node? id).map Html.Node.children).getD []).filterMap (attributeOf? · "id")

/-- What stands in `region`. On a page without an element for it the whole page counts as the
    region. -/
def regionContent (p : Page) (region : Html.Region) : List Html.Node :=
  match p.region? region with
  | some n => n.children
  | none => p.nodes

/-- The markup in a region, be it part of `nodes` or not; see `regionContent`. -/
def regionHtml (p : Page) (region : Html.Region) : String :=
  Html.Node.writeAll (p.regionContent region)

/-- The value of the attribute `name` of a region, by the same element as `regionHtml`. -/
def regionAttribute? (p : Page) (region : Html.Region) (name : String) : Option String :=
  (p.region? region).bind (attributeOf? · name)

/-! ### Changes -/

/-- The page with `nodes` for its trees. A region that was part of the old trees and is not part of
    the new ones is kept among the `detached` trees; the ids are listed anew, and the change is
    counted. -/
def withNodes (p : Page) (nodes : List Html.Node) : Page :=
  let lost := [Html.Region.head, .body].filterMap fun region =>
    -- the head and the body that this change takes out of the trees
    if (regionNode? region nodes).isNone then regionNode? region p.nodes else none
  { p with
    nodes
    detached := p.detached ++ lost
    ids := idIndex nodes
    mutations := p.mutations + 1 }

/-- The page with `f n` in the place of the node `n` at the address `a`. -/
def editAt (p : Page) (f : Html.Node → List Html.Node) (a : Html.Address) : Page :=
  p.withNodes (Html.editAt f a p.nodes)

end Page

end PagePatch
