import PagePatch.Xml.Scan

namespace PagePatch.Xml

/-!
# Element trees

* `Node` and `Element` — the tree of a document;
* `Reading.run` — builds the tree, or tells the first fault;
* `Element.parse` — reads a document.
-/

/-- A node of an element tree: an element with its children, or a text. -/
inductive Node where
  | element (name : String) (attributes : List (String × String)) (children : List Node)
  | text (s : String)
  deriving Repr

/-- An element of a document: open while it stands on the `Reading.stack`, complete afterwards. -/
structure Element where
  /-- The name. -/
  name : String
  /-- The attributes, in order. -/
  attributes : List (String × String)
  /-- The children, in order; no two texts stand side by side. -/
  children : List Node
  deriving Repr

namespace Element

/-- The element `e` as a node of its parent. -/
def toNode (e : Element) : Node :=
  .element e.name e.attributes e.children

/-- Appends the child `n`. -/
def addChild (e : Element) (n : Node) : Element :=
  { e with children := e.children ++ [n] }

/-- Appends the text `s`, joining it to a text that stands last. -/
def addText (e : Element) (s : String) : Element :=
  match e.children.getLast? with
  | some (.text before) => { e with children := e.children.dropLast ++ [.text (before ++ s)] }
  | _ => e.addChild (.text s)

/-- The element that a start tag with this `inside` opens, or the fault in its attributes. -/
def ofTag (inside : List Char) : Except Fault Element :=
  let name := String.ofList (tagName inside)
  match Xml.attributes inside with
  | .error fault => .error (.badAttribute name fault)
  | .ok attributes => .ok { name, attributes, children := [] }

end Element

/-- A document as far as it was read: the open elements on the `stack`, and the `root` once it is
    complete. -/
structure Reading where
  /-- The open elements, innermost first. -/
  stack : List Element := []
  /-- The root element, once its end tag was read. -/
  root : Option Element := none
  deriving Repr

namespace Reading

/-- Puts the complete element `e` into the innermost open one, or makes it the root if there is none
    yet. -/
def attach (r : Reading) (e : Element) : Except Fault Reading :=
  match r.stack with
  | parent :: outer => .ok { r with stack := parent.addChild e.toNode :: outer }
  | [] => if r.root.isSome then .error .secondRoot else .ok { r with root := some e }

/-- Puts the text `s` into the innermost open element; outside the root only blanks may stand. -/
def addText (r : Reading) (s : String) : Except Fault Reading :=
  match r.stack with
  | parent :: outer => .ok { r with stack := parent.addText s :: outer }
  | [] => if Text.isBlankText s then .ok r else .error .textOutsideRoot

/-- Takes in one event. References are replaced in text, and not in character data; a fault ends the
    reading. -/
def step (r : Reading) : Event → Except Fault Reading
  | .start inside => do
    let e ← Element.ofTag inside
    pure { r with stack := e :: r.stack }
  | .empty inside => do r.attach (← Element.ofTag inside)
  | .finish name pos =>
    match r.stack with
    | [] => .error (.unmatchedEnd (String.ofList name) pos)
    | e :: outer =>
      if e.name = String.ofList name then Reading.attach { r with stack := outer } e
      else .error (.mismatchedEnd e.name (String.ofList name) pos)
  | .text raw => r.addText (String.ofList (unescapeOrRaw raw))
  | .cdata raw => r.addText (String.ofList raw)

/-- The root at the end of the document, if there is one and the `stack` is empty. -/
def result (r : Reading) : Except Fault Element :=
  match r.stack, r.root with
  | e :: _, _ => .error (.unclosedElement e.name)
  | [], some root => .ok root
  | [], none => .error .noRoot

/-- Takes in events by `step`, up to the end or the first fault. -/
def run (r : Reading) : Events → Except Fault Element
  | .done => r.result
  | .failed fault => .error fault
  | .more event rest =>
    match r.step event with
    | .error fault => .error fault
    | .ok r => r.run rest

end Reading

/-- Reads the document `raw` as the tree of its root. -/
def Element.parse (raw : String) : Except Fault Element :=
  Reading.run {} (scan raw.toList)

end PagePatch.Xml
