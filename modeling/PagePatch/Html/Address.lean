import PagePatch.Html.Node

namespace PagePatch.Html

/-!
# Addresses in trees

An address leads to a node of a list of trees by the positions of its ancestors and its own.

* `elementsAt` — the elements of a list of trees with their addresses, in document order;
* `nodeAt?` — the node at an address;
* `editAt` — the trees with other nodes in the place of the one at an address;
* `Node.mapElements` — the trees with every element changed.
-/

/-- The positions of the ancestors of a node and its own, from the top: `[i, j]` is the child `j` of
    the tree `i`. The empty address leads to no node. -/
abbrev Address := List Nat

namespace Node

mutual

/-- The elements of a tree in document order, each with its address from the root on: `[]` is that
    of the root itself. -/
def elementsBelow : Node → List (Address × Element)
  | element e children => ([], e) :: elementsFrom 0 children
  | _ => []

/-- The elements of a list of trees with their addresses, in document order; `i` is the position
    of the first tree. -/
def elementsFrom (i : Nat) : List Node → List (Address × Element)
  | [] => []
  | n :: rest => (n.elementsBelow.map fun (a, e) => (i :: a, e)) ++ elementsFrom (i + 1) rest

end

mutual

/-- Applies `f` to every element of a tree. The nodes and their places stay. -/
def mapElements (f : Element → Element) : Node → Node
  | element e children => element (f e) (mapElementsOf f children)
  | n => n

/-- Applies `f` to every element of a list of trees; see `Node.mapElements`. -/
def mapElementsOf (f : Element → Element) : List Node → List Node
  | [] => []
  | n :: rest => n.mapElements f :: mapElementsOf f rest

end

/-- The element with `children` in the place of its own; a node of another kind stays as it is. -/
def withChildren (children : List Node) : Node → Node
  | element e _ => element e children
  | n => n

/-- The element with `f` applied to its name and attributes, not to what is below it; a node of
    another kind stays as it is. -/
def mapElement (f : Element → Element) : Node → Node
  | element e children => element (f e) children
  | n => n

end Node

/-- The elements of the trees `nodes` with their addresses, in document order. `nodeAt?` finds each
    of them again. -/
def elementsAt (nodes : List Node) : List (Address × Element) :=
  Node.elementsFrom 0 nodes

/-- The node at an address in the trees `nodes`; `none` for an address that leads out of them. -/
def nodeAt? : Address → List Node → Option Node
  | [], _ => none
  | [i], nodes => nodes[i]?
  | i :: rest, nodes => nodes[i]?.bind fun n => nodeAt? rest n.children

/-- The trees with the nodes `f n` in the place of the node `n` at an address. At an address that
    leads to no node nothing changes. -/
def editAt (f : Node → List Node) : Address → List Node → List Node
  | [], nodes => nodes
  | [i], nodes => nodes.take i ++ nodes[i]?.toList.flatMap f ++ nodes.drop (i + 1)
  | i :: rest, nodes =>
    nodes.modify i fun n => n.withChildren (editAt f rest n.children)

/-- The address of the first element, in document order, that `p` holds for. -/
def findAddress? (p : Element → Bool) (nodes : List Node) : Option Address :=
  ((elementsAt nodes).find? fun (_, e) => p e).map Prod.fst

end PagePatch.Html
