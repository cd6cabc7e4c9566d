import PagePatch.Change.Operation
import PagePatch.Payload.Fault
import PagePatch.Text.Blank
import PagePatch.Xml.Markup

namespace PagePatch

/-!
# Partial responses as documents

A well-formed payload is a `partial-response` element. Its `changes`, `error` and `redirect`
children hold the operations; other children are left for extensions.

* `operationsOf` — the operations of one child of the root;
* `ChangeSet.ofElement` — the change-set of a root element;
* `ChangeSet.ofDocument` — the change-set of a payload.
-/

/-- The id of an element that must have one. An empty one is none, by `Xml.Element.nonEmpty?`. -/
def requiredId (e : Xml.Element) : Except OperationFault String :=
  match e.nonEmpty? "id" with
  | some id => .ok id
  | none => .error (.withoutId e.name)

/-- The operation of one `attribute` element in a node for the element `target`. Without a value it
    sets an empty one. -/
def attributeOperation (target : String) (e : Xml.Element) : Except OperationFault Operation :=
  match e.attribute? "name" with
  | some name => .ok (.setAttribute target name ((e.attribute? "value").getD ""))
  | none => .error (.attributeWithoutName target)

/-- An anchor named by an attribute of the insert `e` itself, called `position.name`: the markup is
    the insert's own content. -/
def shortAnchor (e : Xml.Element) (position : InsertPosition) :
    Option (InsertPosition × String × String) :=
  (e.nonEmpty? position.name).map fun anchor => (position, anchor, e.content)

/-- An anchor named by the first child of `e` for a position: the markup is the content of this
    child, and the anchor its `id`. -/
def longAnchor (e : Xml.Element) (position : InsertPosition) :
    Option (InsertPosition × String × String) :=
  (e.child? position.name).bind fun child =>
    (child.nonEmpty? "id").map fun anchor => (position, anchor, child.content)

/-- The anchor of an insert. Attributes count before children, and `before` before `after`. -/
def anchorOf (e : Xml.Element) : Option (InsertPosition × String × String) :=
  shortAnchor e .before <|> shortAnchor e .after <|> longAnchor e .before <|> longAnchor e .after

/-- The operation of an `insert` element. The id of what is inserted is optional. -/
def insertOperation (e : Xml.Element) : Except OperationFault Operation :=
  match anchorOf e with
  | some (position, anchor, markup) => .ok (.insert (e.nonEmpty? "id") position anchor markup)
  | none => .error (.insertWithoutAnchor (e.nonEmpty? "id"))

/-- The operations of one child of `changes`. A child with another name is left for extensions and
    has none. -/
def changeOperations (e : Xml.Element) : Except OperationFault (List Operation) :=
  match e.name with
  | "update" => (requiredId e).map fun id => [.update id e.content]
  | "insert" => (insertOperation e).map fun op => [op]
  | "delete" => (requiredId e).map fun id => [.delete id]
  | "attributes" =>
    -- one operation for each attribute, after the id of the node was looked at
    match requiredId e with
    | .error fault => .error fault
    | .ok target => (e.elements.filter (·.name = "attribute")).mapM (attributeOperation target)
  | "eval" => .ok [.eval e.content]
  | _ => .ok []

/-- The content of the first child of `e` with the given `name`, empty without one. -/
def childContent (e : Xml.Element) (name : String) : String :=
  ((e.child? name).map Xml.Element.content).getD ""

/-- The operations of one child of the root. A child that is none of `changes`, `error`, `redirect`
    is left for extensions and has none. -/
def operationsOf (e : Xml.Element) : Except OperationFault (List Operation) :=
  match e.name with
  | "changes" => (e.elements.mapM changeOperations).map List.flatten
  | "error" =>
    -- the blanks around a message are part of it, those around a name are not
    .ok [.error (Text.trim (childContent e "error-name")) (childContent e "error-message")]
  | "redirect" =>
    match e.nonEmpty? "url" with
    | some url => .ok [.redirect url]
    | none => .error .redirectWithoutUrl
  | _ => .ok []

/-- The change-set of a `root` element. The first operation that makes no sense ends the reading of
    all. -/
def ChangeSet.ofElement (root : Xml.Element) : Except PayloadFault ChangeSet :=
  if root.name ≠ "partial-response" then .error (.otherRoot root.name)
  else
    match root.elements.mapM operationsOf with
    | .error fault => .error (.operation fault)
    | .ok ops =>
      .ok { ChangeSet.ofList ops.flatten with responseId := root.attribute? "id" }

/-- The change-set of a payload `raw` that is read as a document. -/
def ChangeSet.ofDocument (raw : String) : Except PayloadFault ChangeSet :=
  match Xml.Element.parse raw with
  | .error fault => .error (.malformed fault)
  | .ok root => ChangeSet.ofElement root

end PagePatch
