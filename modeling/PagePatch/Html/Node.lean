namespace PagePatch.Html

/-!
# Page trees

* `Attributes` — the attributes of an element, sorted by namespace and name;
* `Element` — what an element is, apart from its children;
* `Node` — a tree of elements, texts, comments and document type declarations.

The content of a `template` element is no part of the tree.
-/

/-- The vocabularies an element can belong to: the `space` of an `Element`, and of the `Name`s the
    rules of tree building go by. -/
inductive Namespace where
  | html
  | mathml
  | svg
  deriving DecidableEq, Repr

/-- The namespaces of attributes, in the order of their names. -/
inductive AttributeSpace where
  /-- No namespace. -/
  | plain
  | xlink
  | xmlns
  | xml
  deriving DecidableEq, Repr

/-- The place of a namespace in the order in which `Attribute.isBefore` sorts the attributes of an
    element. -/
def AttributeSpace.rank : AttributeSpace → Nat
  | plain => 0
  | xlink => 1
  | xmlns => 2
  | xml => 3

/-- An attribute of an element. In the markup its name is the `writtenName`, with the prefix of
    `space` in front. -/
structure Attribute where
  /-- The namespace of its name. -/
  space : AttributeSpace := .plain
  /-- Its name. -/
  name : String
  /-- Its value. -/
  value : String
  deriving DecidableEq, Repr

/-- Whether `a` and `b` are two settings of one attribute: both the namespace and the name are the
    same. -/
def Attribute.sameName (a b : Attribute) : Bool :=
  a.space == b.space && a.name == b.name

/-- Whether `a` stands before `b` in an element: by `rank` of the namespace, then by the order of
    the names. -/
def Attribute.isBefore (a b : Attribute) : Bool :=
  a.space.rank < b.space.rank || (a.space == b.space && a.name < b.name)

/-- The attributes of an element, sorted by namespace and name. Only `insert` adds to them, so that
    no name occurs twice. -/
structure Attributes where
  /-- The attributes in order. -/
  toList : List Attribute := []
  deriving DecidableEq, Repr

namespace Attributes

/-- Puts `a` in its place in a sorted list. An attribute of the same name goes, and `a` stands in
    its place. -/
def insertSorted (a : Attribute) : List Attribute → List Attribute
  | [] => [a]
  | b :: rest =>
    if a.sameName b then a :: rest
    else if a.isBefore b then a :: b :: rest
    else b :: insertSorted a rest

/-- Sets the attribute `a`: in its sorted place, or in place of the one of its name. -/
def insert (as : Attributes) (a : Attribute) : Attributes :=
  ⟨insertSorted a as.toList⟩

/-- Sets the attribute `name`, without a namespace, to `value`; this is what an attribute change of
    a response does. -/
def set (as : Attributes) (name value : String) : Attributes :=
  as.insert { name, value }

/-- The attributes in the list `as`; of two with one name the later one counts. -/
def ofList (as : List Attribute) : Attributes :=
  as.foldl insert {}

/-- Adds those of the attributes `more` whose names are not there yet. What is there keeps its
    value. -/
def addMissing (as : Attributes) (more : List Attribute) : Attributes :=
  more.foldl (fun as a => if as.toList.any a.sameName then as else as.insert a) as

/-- The value of the attribute `name`. An attribute with a namespace is not found under its bare
    name. -/
def get? (as : Attributes) (name : String) : Option String :=
  (as.toList.find? fun a => a.space == .plain && a.name == name).map Attribute.value

end Attributes

/-- The regions that a page hands out for replacement. An `Element` with a `region` stands for one
    of them, wherever it has moved. -/
inductive Region where
  | head
  | body
  deriving DecidableEq, Repr

/-- The name of the element of a region, which `Page.markRegion` looks for. -/
def Region.name : Region → String
  | head => "head"
  | body => "body"

/-- What an element is, apart from its children. These are kept beside it by `Node.element`. -/
structure Element where
  /-- Its vocabulary. -/
  space : Namespace := .html
  /-- Its name. -/
  name : String
  /-- Its attributes. -/
  attributes : Attributes := {}
  /-- The region of the page that it stands for. -/
  region : Option Region := none
  deriving DecidableEq, Repr

/-- The value of the attribute `name` of `e`, without a namespace. -/
def Element.attribute? (e : Element) (name : String) : Option String :=
  e.attributes.get? name

/-- The id of `e`. It can be the empty text, which an element with `id=""` has. -/
def Element.id? (e : Element) : Option String :=
  e.attribute? "id"

/-- A node of a page. Only an element has children; a list of `Node`s is what stands in one, or a
    whole page. -/
inductive Node where
  | element (e : Element) (children : List Node)
  | text (s : String)
  | comment (s : String)
  | doctype (name : String)
  deriving Repr

namespace Node

/-- What the node is, apart from its children, if it is an element; `none` for the other kinds. -/
def element? : Node → Option Element
  | element e _ => some e
  | _ => none

/-- The children of the node; only `element` has any. -/
def children : Node → List Node
  | element _ children => children
  | _ => []

mutual

/-- The elements of a tree with their children, the root included, in document order. Together with
    `elementsOf` it goes down the tree. -/
def elements : Node → List (Element × List Node)
  | element e children => (e, children) :: elementsOf children
  | _ => []

/-- The elements of a list of trees with their children, in document order: `Node.elements` of one
    tree after the other. -/
def elementsOf : List Node → List (Element × List Node)
  | [] => []
  | n :: rest => n.elements ++ elementsOf rest

end

mutual

/-- The number of nodes of a tree, the root included; `sizeOf` is the same for a list of trees. -/
def size : Node → Nat
  | element _ children => sizeOf children + 1
  | _ => 1

/-- The number of nodes of a list of trees, each counted with all that is below it. -/
def sizeOf : List Node → Nat
  | [] => 0
  | n :: rest => n.size + sizeOf rest

end

mutual

/-- The texts of a tree, joined in document order. Comments and declarations are passed over; the
    code of a script is the `textContentOf` its children. -/
def textContent : Node → String
  | element _ children => textContentOf children
  | text s => s
  | _ => ""

/-- The texts of a list of trees, joined in document order; see `textContent`. -/
def textContentOf : List Node → String
  | [] => ""
  | n :: rest => n.textContent ++ textContentOf rest

end

end Node

end PagePatch.Html
