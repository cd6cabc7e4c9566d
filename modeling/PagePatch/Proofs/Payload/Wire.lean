import PagePatch.Proofs.Payload.Failure
import PagePatch.Proofs.Payload.Sense

namespace PagePatch.Wire

open Xml (Blanks Content Element Tag)

/-!
# The written form of responses

A response is written as a document: each change as an element of its own, texts as character data,
the values of attributes escaped. Between the elements there may be blanks, comments and elements
that are left for extensions. Reading the document gives the changes back, in their order.

* `Gap` — what may stand between two elements;
* `Change`, `Section`, `Response` — the ways to write changes;
* `Writable` — the changes that can be written;
* `parse_written` — reading what was written.
-/

/-! ### Gaps -/

/-- What may stand between elements and has no meaning for `operationsOf`. -/
inductive Filler where
  /-- A comment or processing instruction. -/
  | aside (a : Xml.Aside)
  /-- An element that is left for extensions, closed at once if there is nothing in it. -/
  | extension (tag : Tag) (h : tag.name = "extension".toList) (inner : Option Content)

/-- The filler behind the blanks `before` it and in front of what follows. -/
def Filler.put (before : Blanks) : Filler → Content → Content
  | aside a, after => .aside before.run a after
  | extension tag _ none, after => .single before.run tag after
  | extension tag _ (some inner), after => .element before.run tag inner after

/-- What stands between two elements: `fillers` and blanks. -/
structure Gap where
  /-- Fillers, each behind blanks. -/
  fillers : List (Blanks × Filler) := []
  /-- Blanks behind all of them. -/
  last : Blanks := .empty

/-- The gap `g` in front of what follows on its last blanks. -/
def Gap.put (g : Gap) (after : Blanks → Content) : Content :=
  g.fillers.foldr (fun f content => f.2.put f.1 content) (after g.last)

/-- An element that is written in a response; `toElement` is what it is read as. -/
inductive Child where
  /-- An element that is closed at once. -/
  | single (tag : Tag)
  /-- An element with something in it. -/
  | element (tag : Tag) (inner : Content)

namespace Child

/-- The element behind the blanks `before` it and in front of what follows. -/
def put (before : Blanks) : Child → Content → Content
  | single tag, after => .single before.run tag after
  | element tag inner, after => .element before.run tag inner after

/-- The element as it is read, with all that stands in it: `Content.addTo` puts it there. -/
def toElement : Child → Element
  | single tag => tag.element
  | element tag inner => inner.addTo tag.element

end Child

/-- Elements, each behind a gap of its own, and the gap `last` behind all of them. -/
def spaced (children : List (Gap × Child)) (last : Gap) : Content :=
  children.foldr (fun c content => c.1.put fun before => c.2.put before content)
    (last.put fun before => .text before.run)

/-- The elements of `es` that are not left for extensions. -/
def meant (es : List Element) : List Element :=
  es.filter (·.name ≠ "extension")

/-- An element `e` in front that is left for extensions does not count. -/
theorem meant_cons_of_extension {e : Element} (h : e.name = "extension") (es : List Element) :
    meant (e :: es) = meant es := by
  simp [meant, h]

/-- The gap `g` holds nothing that is meant, so only what stands behind it counts. -/
theorem Gap.meant_put (g : Gap) (after : Blanks → Content) :
    meant (g.put after).elements = meant (after g.last).elements := by
  have hfiller : ∀ (before : Blanks) (filler : Filler) (content : Content),
      meant (filler.put before content).elements = meant content.elements := by
    intro before filler content
    cases filler with
    | aside a => rfl
    | extension tag h inner =>
      have hname : tag.element.name = "extension" := by
        rw [Tag.element, h]
        rfl
      cases inner with
      | none => exact meant_cons_of_extension hname _
      | some inner => exact meant_cons_of_extension ((inner.addTo_name _).trans hname) _
  unfold put
  induction g.fillers with
  | nil => rfl
  | cons f fillers ih => rw [List.foldr_cons, hfiller, ih]

/-- Between gaps, the elements that are meant are those of `children`: the gaps do not count. -/
theorem meant_spaced (children : List (Gap × Child)) (last : Gap) :
    meant (spaced children last).elements = meant (children.map fun c => c.2.toElement) := by
  induction children with
  | nil => exact last.meant_put fun before => .text before.run
  | cons c children ih =>
    have hchild : ∀ (before : Blanks) (content : Content),
        (c.2.put before content).elements = c.2.toElement :: content.elements := by
      intro before content
      cases c.2 <;> rfl
    have hcons : ∀ es, meant (c.2.toElement :: es) = meant [c.2.toElement] ++ meant es := by
      intro es
      rw [meant, meant, meant, ← List.filter_append, List.singleton_append]
    have hspaced : spaced (c :: children) last =
        c.1.put fun before => c.2.put before (spaced children last) := rfl
    rw [hspaced, Gap.meant_put, hchild, hcons, ih, ← hcons]
    rfl

/-- A reader `f` that makes nothing of extensions may as well be given only what is meant. -/
theorem mapM_meant {α : Type} {f : Element → Except OperationFault (List α)}
    (hf : ∀ e, e.name = "extension" → f e = .ok []) (es : List Element) :
    (es.mapM f).map List.flatten = ((meant es).mapM f).map List.flatten := by
  induction es with
  | nil => rfl
  | cons e es ih =>
    by_cases hname : e.name = "extension"
    · rw [meant_cons_of_extension hname, ← ih, List.mapM_cons, hf e hname]
      cases es.mapM f <;> rfl
    · have hmeant : meant (e :: es) = e :: meant es :=
        List.filter_cons_of_pos (decide_eq_true hname)
      rw [hmeant, List.mapM_cons, List.mapM_cons]
      cases f e with
      | error fault => rfl
      | ok xs =>
        -- what is read of the first one stands in front, whatever becomes of the others
        have hrest : ∀ ys : Except OperationFault (List (List α)),
            ((do let b ← ys; pure (xs :: b)).map List.flatten : Except OperationFault (List α)) =
              (ys.map List.flatten).map (xs ++ ·) := by
          intro ys
          cases ys <;> rfl
        exact (hrest _).trans ((congrArg _ ih).trans (hrest _).symm)

/-- The first element of the name `name` is found among those that are meant, as it is not one for
    extensions. -/
theorem find?_meant {name : String} (hname : name ≠ "extension") (es : List Element) :
    es.find? (·.name = name) = (meant es).find? (·.name = name) := by
  rw [meant, List.find?_filter]
  congr 1
  funext e
  by_cases he : e.name = name
  · simp [he, hname]
  · simp [he]

/-- So are all elements of the name `name`. -/
theorem filter_meant {name : String} (hname : name ≠ "extension") (es : List Element) :
    es.filter (·.name = name) = (meant es).filter (·.name = name) := by
  rw [meant, List.filter_filter]
  congr 1
  funext e
  by_cases he : e.name = name
  · simp [he, hname]
  · simp [he]

/-- If each element `g x` is read as `h x`, then all of them together are. -/
theorem mapM_map {α β γ : Type} {f : β → Except OperationFault γ} {g : α → β} {h : α → γ}
    {xs : List α} (heach : ∀ x ∈ xs, f (g x) = .ok (h x)) :
    (xs.map g).mapM f = .ok (xs.map h) := by
  induction xs with
  | nil => rfl
  | cons x xs ih =>
    obtain ⟨hx, hxs⟩ := List.forall_mem_cons.mp heach
    rw [List.map_cons, List.mapM_cons, hx, ih hxs]
    rfl

/-! ### Changes -/

/-- The text `s` as character data, whatever characters it has. -/
def textContent (s : String) : Content :=
  .cdata .empty s.toList (.text .empty)

/-- The text `s` is read again from an element `e` with nothing else in it. -/
theorem content_textContent (e : Element) (h : e.children = []) (s : String) :
    ((textContent s).addTo e).content = s := by
  simp [textContent, Xml.Run.empty, Content.addTo, Xml.Run.addTo, Element.addText, h,
    Element.addChild, Element.content, Element.content.writeContent, Xml.Node.write]

/-- The attribute for `id`, if there is one. -/
def idAttribute (id : Option String) : List (String × String) :=
  (id.map fun id => ("id", id)).toList

/-- The tag of an update of `target`. -/
def updateTag (target : String) : Tag :=
  .ofStrings "update" [("id", target)] (by decide) (by simp; decide) (by simp)

/-- One attribute that is set, as an element of its own in a `Change`. -/
structure Setting where
  /-- What stands in front of the element. -/
  gap : Gap := {}
  /-- The name of the attribute. -/
  name : String
  /-- Its value. -/
  value : String

/-- The element that `s` is written as, which is closed at once. -/
def Setting.child (s : Setting) : Child :=
  .single (.ofStrings "attribute" [("name", s.name), ("value", s.value)] (by decide)
    (by simp; decide) (by simp))

/-- The element that names the `anchor` of an insert, with the markup in it. -/
def anchorChild (position : InsertPosition) (anchor markup : String) : Child :=
  .element (.ofStrings position.name [("id", anchor)] (by cases position <;> decide)
    (by simp; decide) (by simp)) (textContent markup)

/-- A change as it is written. Each has a text as character data, names in attributes, or both;
    `Change.operations` is what it asks for. -/
inductive Change where
  /-- New markup for an element or region. -/
  | update (target markup : String)
  /-- New markup, next to an anchor that an attribute names. -/
  | insertShort (id : Option String) (position : InsertPosition) (anchor markup : String)
  /-- New markup, next to an anchor that an element of its own names. -/
  | insertLong (id : Option String) (position : InsertPosition) (anchor markup : String)
    (front back : Gap)
  /-- The removal of an element. -/
  | delete (target : String)
  /-- Attributes of one element, at least one of them. -/
  | settings (target : String) (first : Setting) (others : List Setting) (last : Gap)
  /-- Code that is to be run. -/
  | eval (code : String)

namespace Change

/-- The operations that a change asks for, in their order: one, or one for each attribute of
    `settings`. -/
def operations : Change → List Operation
  | update target markup => [.update target markup]
  | insertShort id position anchor markup | insertLong id position anchor markup _ _ =>
    [.insert id position anchor markup]
  | delete target => [.delete target]
  | settings target first others _ =>
    (first :: others).map fun s => .setAttribute target s.name s.value
  | eval code => [.eval code]

/-- The element that a `Change` is written as. -/
def child : Change → Child
  | update target markup => .element (updateTag target) (textContent markup)
  | insertShort id position anchor markup =>
    .element (.ofStrings "insert" (idAttribute id ++ [(position.name, anchor)]) (by decide)
      (by cases id <;> cases position <;> simp [idAttribute, InsertPosition.name] <;> decide)
      (by cases id <;> cases position <;> simp [idAttribute, InsertPosition.name]))
      (textContent markup)
  | insertLong id position anchor markup front back =>
    .element (.ofStrings "insert" (idAttribute id) (by decide)
      (by cases id <;> simp [idAttribute]; decide) (by cases id <;> simp [idAttribute]))
      (spaced [(front, anchorChild position anchor markup)] back)
  | delete target =>
    .single (.ofStrings "delete" [("id", target)] (by decide) (by simp; decide) (by simp))
  | settings target first others last =>
    .element (.ofStrings "attributes" [("id", target)] (by decide) (by simp; decide) (by simp))
      (spaced ((first :: others).map fun s => (s.gap, s.child)) last)
  | eval code =>
    .element (.ofStrings "eval" [] (by decide) (by simp) (by simp)) (textContent code)

end Change

/-! ### Reading changes -/

/-- An operation that names what it has to, so that it can be written. The name of an `error` has no
    blanks around it, as these are not read. -/
def IsComplete : Operation → Prop
  | .update target _ | .delete target | .setAttribute target _ _ => target ≠ ""
  | .insert id _ anchor _ => id ≠ some "" ∧ anchor ≠ ""
  | .eval _ => True
  | .redirect url => url ≠ ""
  | .error name _ => Text.trim name = name

instance : DecidablePred IsComplete
  | .update target _ | .delete target | .setAttribute target _ _ =>
    inferInstanceAs (Decidable (target ≠ ""))
  | .insert id _ anchor _ => inferInstanceAs (Decidable (id ≠ some "" ∧ anchor ≠ ""))
  | .eval _ => inferInstanceAs (Decidable True)
  | .redirect url => inferInstanceAs (Decidable (url ≠ ""))
  | .error name _ => inferInstanceAs (Decidable (Text.trim name = name))

/-- The name and the attributes of an element `e` that was read. -/
structure Reads (e : Element) (name : String) (attributes : List (String × String)) : Prop where
  /-- Its name. -/
  name : e.name = name
  /-- Its attributes. -/
  attributes : e.attributes = attributes

/-- What `inner` puts into an element does not count for its name and attributes. -/
theorem reads_addTo {name : String} {attributes : List (String × String)} (inner : Content) :
    Reads (inner.addTo ⟨name, attributes, []⟩) name attributes where
  name := inner.addTo_name _
  attributes := inner.addTo_attributes _

section

variable {name : String} {attributes : List (String × String)} {isName : Xml.IsName name.toList}
  {keys : ∀ a ∈ attributes, Xml.IsName a.1.toList} {distinct : (attributes.map Prod.fst).Nodup}

/-- An element with something in it, `inner`, has the name and the attributes of its tag. -/
theorem reads_element (inner : Content) :
    Reads (Child.element (.ofStrings name attributes isName keys distinct) inner).toElement
      name attributes := by
  rw [Child.toElement, Tag.element_ofStrings]
  exact reads_addTo inner

/-- So has an element that is closed at once, a `single` one. -/
theorem reads_single :
    Reads (Child.single (.ofStrings name attributes isName keys distinct)).toElement
      name attributes := by
  rw [Child.toElement, Tag.element_ofStrings]
  exact ⟨rfl, rfl⟩

/-- The text `s` that stands in an element is read again. -/
theorem content_element (s : String) : (Child.element (.ofStrings name attributes isName keys
    distinct) (textContent s)).toElement.content = s :=
  content_textContent _ rfl s

/-- The elements in an element are those of `inner`, what was written into it. -/
theorem elements_element (inner : Content) : (Child.element (.ofStrings name attributes isName keys
    distinct) inner).toElement.elements = inner.elements := by
  rw [Child.toElement, Content.elements_addTo]
  rfl

end

namespace Reads

variable {e : Element} {name key value : String} {attributes : List (String × String)}

/-- An attribute `key` that is there and not empty is found. -/
theorem nonEmpty? (h : Reads e name attributes) (hlookup : attributes.lookup key = some value)
    (hvalue : value ≠ "") : e.nonEmpty? key = some value := by
  rw [Element.nonEmpty?_eq_some_iff, Element.attribute?, h.attributes]
  exact ⟨hlookup, hvalue⟩

/-- An attribute `key` that is not there is not found. -/
theorem nonEmpty?_eq_none (h : Reads e name attributes) (hlookup : attributes.lookup key = none) :
    e.nonEmpty? key = none := by
  rw [Element.nonEmpty?, Element.attribute?, h.attributes, hlookup, Option.filter_none]

/-- The id of an element `e` that needs one is found, if it is not empty. -/
theorem requiredId (h : Reads e name attributes) (hlookup : attributes.lookup "id" = some value)
    (hvalue : value ≠ "") : requiredId e = .ok value := by
  rw [PagePatch.requiredId, h.nonEmpty? hlookup hvalue]

/-- The optional id of an insert is found as it was written, whatever `others` there are, if it is
    not empty. -/
theorem optionalId {id : Option String} (others : List (String × String))
    (h : Reads e name (idAttribute id ++ others)) (hothers : others.lookup "id" = none)
    (hid : id ≠ some "") : e.nonEmpty? "id" = id := by
  cases id with
  | none => exact h.nonEmpty?_eq_none hothers
  | some id => exact h.nonEmpty? rfl fun heq => hid (heq ▸ rfl)

end Reads

/-- The `anchor` of an insert whose tag names it is found, and the markup is what stands in the
    insert. -/
theorem anchorOf_short {e : Element} {id : Option String} {position : InsertPosition}
    {anchor : String} (h : Reads e "insert" (idAttribute id ++ [(position.name, anchor)]))
    (hanchor : anchor ≠ "") : anchorOf e = some (position, anchor, e.content) := by
  have hnamed : e.nonEmpty? position.name = some anchor :=
    h.nonEmpty? (by cases id <;> cases position <;> rfl) hanchor
  have hshort : shortAnchor e position = some (position, anchor, e.content) := by
    rw [shortAnchor, hnamed]
    rfl
  cases position with
  | before =>
    rw [anchorOf, hshort]
    rfl
  | after =>
    have hother : shortAnchor e .before = none := by
      -- `before` counts before `after`, so it must not be there
      rw [shortAnchor, h.nonEmpty?_eq_none (by cases id <;> rfl)]
      rfl
    rw [anchorOf, hother, hshort]
    rfl

/-- The anchor of an insert is found if its only element that is meant, the `child`, names it; the
    markup is what stands in this child. -/
theorem anchorOf_long {e child : Element} {id : Option String} {position : InsertPosition}
    {anchor : String} (h : Reads e "insert" (idAttribute id)) (hmeant : meant e.elements = [child])
    (hchild : Reads child position.name [("id", anchor)]) (hanchor : anchor ≠ "") :
    anchorOf e = some (position, anchor, child.content) := by
  have hshort : ∀ p : InsertPosition, shortAnchor e p = none := by
    intro p
    rw [shortAnchor, h.nonEmpty?_eq_none (by cases id <;> cases p <;> rfl)]
    rfl
  have hfind : ∀ p : InsertPosition,
      e.child? p.name = if position.name = p.name then some child else none := by
    intro p
    rw [Element.child?, find?_meant (by cases p <;> decide), hmeant, List.find?_singleton,
      hchild.name]
    simp only [decide_eq_true_eq]
  have hlong : longAnchor e position = some (position, anchor, child.content) := by
    rw [longAnchor, hfind, if_pos rfl, Option.bind_some, hchild.nonEmpty? rfl hanchor]
    rfl
  cases position with
  | before =>
    rw [anchorOf, hshort, hshort, hlong]
    rfl
  | after =>
    have hother : longAnchor e .before = none := by
      rw [longAnchor, hfind, if_neg (by decide)]
      rfl
    rw [anchorOf, hshort, hshort, hother, hlong]
    rfl

/-- An update is read as the update of its `target` to the text in it. -/
theorem changeOperations_update {target : String} (htarget : target ≠ "") (markup : String) :
    changeOperations (Change.update target markup).child.toElement =
      .ok [.update target markup] := by
  have hreads : Reads (Change.update target markup).child.toElement _ _ := reads_element _
  have hcontent : (Change.update target markup).child.toElement.content = markup :=
    content_element markup
  simp only [changeOperations, hreads.name, hreads.requiredId rfl htarget, hcontent]
  rfl

/-- An insert with its `anchor` in an attribute is read as the insert of the text in it. -/
theorem changeOperations_insertShort {id : Option String} {anchor : String} (hid : id ≠ some "")
    (hanchor : anchor ≠ "") (position : InsertPosition) (markup : String) :
    changeOperations (Change.insertShort id position anchor markup).child.toElement =
      .ok [.insert id position anchor markup] := by
  have hreads : Reads (Change.insertShort id position anchor markup).child.toElement _ _ :=
    reads_element _
  have hcontent : (Change.insertShort id position anchor markup).child.toElement.content = markup :=
    content_element markup
  simp only [changeOperations, hreads.name, insertOperation, anchorOf_short hreads hanchor,
    hreads.optionalId _ (by cases position <;> rfl) hid, hcontent]
  rfl

/-- The element that names an `anchor` is the only one in its insert that is meant, as it is not one
    for extensions itself. -/
theorem meant_insertLong (id : Option String) (position : InsertPosition) (anchor markup : String)
    (front back : Gap) :
    meant (Change.insertLong id position anchor markup front back).child.toElement.elements =
      [(anchorChild position anchor markup).toElement] := by
  have hchild : Reads (anchorChild position anchor markup).toElement position.name
      [("id", anchor)] := reads_element _
  have hname : (anchorChild position anchor markup).toElement.name ≠ "extension" := by
    rw [hchild.name]
    cases position <;> decide
  rw [Change.child, elements_element, meant_spaced]
  exact List.filter_eq_self.mpr (List.forall_mem_singleton.mpr (decide_eq_true hname))

/-- An insert with its `anchor` in an element of its own is read as the insert of the text in this
    element, whatever stands in the gaps around it. -/
theorem changeOperations_insertLong {id : Option String} {anchor : String} (hid : id ≠ some "")
    (hanchor : anchor ≠ "") (position : InsertPosition) (markup : String) (front back : Gap) :
    changeOperations (Change.insertLong id position anchor markup front back).child.toElement =
      .ok [.insert id position anchor markup] := by
  have hreads : Reads (Change.insertLong id position anchor markup front back).child.toElement
      "insert" (idAttribute id) := reads_element _
  have hchild : Reads (anchorChild position anchor markup).toElement position.name
      [("id", anchor)] := reads_element _
  have hcontent : (anchorChild position anchor markup).toElement.content = markup :=
    content_element markup
  have hanchored := anchorOf_long hreads (meant_insertLong id position anchor markup front back)
    hchild hanchor
  simp only [changeOperations, hreads.name, insertOperation, hanchored,
    Reads.optionalId [] (by rwa [List.append_nil]) rfl hid, hcontent]
  rfl

/-- A removal is read as the removal of its `target`. -/
theorem changeOperations_delete {target : String} (htarget : target ≠ "") :
    changeOperations (Change.delete target).child.toElement = .ok [.delete target] := by
  have hreads : Reads (Change.delete target).child.toElement _ _ := reads_single
  simp only [changeOperations, hreads.name, hreads.requiredId rfl htarget]
  rfl

/-- The elements with a name in `attributes` are the settings, in their order: none of them is left
    out, and what stands in the gaps is for extensions. -/
theorem filter_settings (target : String) (first : Setting) (others : List Setting) (last : Gap) :
    (Change.settings target first others last).child.toElement.elements.filter
      (·.name = "attribute") = (first :: others).map fun s => s.child.toElement := by
  have hnamed : ∀ e ∈ (first :: others).map fun s => s.child.toElement,
      decide (e.name = "attribute") = true := by
    intro e he
    obtain ⟨s, -, rfl⟩ := List.mem_map.mp he
    exact decide_eq_true reads_single.name
  rw [Change.child, elements_element, filter_meant (by decide), meant_spaced,
    ← filter_meant (by decide), List.map_map]
  exact List.filter_eq_self.mpr hnamed

/-- The setting `s` is read as the attribute that it sets. -/
theorem attributeOperation_setting (target : String) (s : Setting) :
    attributeOperation target s.child.toElement = .ok (.setAttribute target s.name s.value) := by
  have hreads : Reads s.child.toElement "attribute" [("name", s.name), ("value", s.value)] :=
    reads_single
  simp only [attributeOperation, Element.attribute?, hreads.attributes]
  rfl

/-- Settings are read as one attribute of the `target` after the other. -/
theorem changeOperations_settings {target : String} (htarget : target ≠ "") (first : Setting)
    (others : List Setting) (last : Gap) :
    changeOperations (Change.settings target first others last).child.toElement =
      .ok ((first :: others).map fun s => .setAttribute target s.name s.value) := by
  have hreads : Reads (Change.settings target first others last).child.toElement _ _ :=
    reads_element _
  simp only [changeOperations, hreads.name, hreads.requiredId rfl htarget,
    filter_settings target first others last]
  exact mapM_map fun s _ => attributeOperation_setting target s

/-- An `eval` is read as the code in it. -/
theorem changeOperations_eval (code : String) :
    changeOperations (Change.eval code).child.toElement = .ok [.eval code] := by
  have hreads : Reads (Change.eval code).child.toElement _ _ := reads_element _
  have hcontent : (Change.eval code).child.toElement.content = code := content_element code
  simp only [changeOperations, hreads.name, hcontent]

/-- **A change is read as what it asks for**, if it names what it has to: the element of `c` gives
    the operations of `c`. -/
theorem changeOperations_child (c : Change) (h : ∀ op ∈ c.operations, IsComplete op) :
    changeOperations c.child.toElement = .ok c.operations := by
  -- what a change has to name is the same for all of its operations, so the first one tells
  cases c with
  | update target markup => exact changeOperations_update (h _ List.mem_cons_self) markup
  | insertShort id position anchor markup =>
    obtain ⟨hid, hanchor⟩ : id ≠ some "" ∧ anchor ≠ "" := h _ List.mem_cons_self
    exact changeOperations_insertShort hid hanchor position markup
  | insertLong id position anchor markup front back =>
    obtain ⟨hid, hanchor⟩ : id ≠ some "" ∧ anchor ≠ "" := h _ List.mem_cons_self
    exact changeOperations_insertLong hid hanchor position markup front back
  | delete target => exact changeOperations_delete (h _ List.mem_cons_self)
  | settings target first others last =>
    exact changeOperations_settings (h _ List.mem_cons_self) first others last
  | eval code => exact changeOperations_eval code

/-! ### Responses -/

/-- The tag of a container of changes, which has no attributes. -/
def changesTag : Tag :=
  .ofStrings "changes" [] (by decide) (by simp) (by simp)

/-- The tag of the root, with the `id` of the response, if it has one. -/
def responseTag (id : Option String) : Tag :=
  .ofStrings "partial-response" (idAttribute id) (by decide)
    (by cases id <;> simp [idAttribute]; decide) (by cases id <;> simp [idAttribute])

/-- A child of the root as it is written; `Section.operations` is what it asks for. -/
inductive Section where
  /-- A container of changes, each behind a gap. -/
  | changes (children : List (Gap × Change)) (last : Gap)
  /-- A redirect. -/
  | redirect (url : String)
  /-- The report of a failure, with gaps around its name and its message. -/
  | error (name message : String) (front middle back : Gap)

/-- The element that holds the name `s` of a report. -/
def nameChild (s : String) : Child :=
  .element (.ofStrings "error-name" [] (by decide) (by simp) (by simp)) (textContent s)

/-- The element that holds the message `s` of a report. -/
def messageChild (s : String) : Child :=
  .element (.ofStrings "error-message" [] (by decide) (by simp) (by simp)) (textContent s)

namespace Section

/-- The operations that a `Section` asks for, in their order. -/
def operations : Section → List Operation
  | changes children _ => children.flatMap fun c => c.2.operations
  | redirect url => [.redirect url]
  | error name message .. => [.error name message]

/-- The element that a `Section` is written as. -/
def child : Section → Child
  | changes children last =>
    .element changesTag (spaced (children.map fun c => (c.1, c.2.child)) last)
  | redirect url =>
    .single (.ofStrings "redirect" [("url", url)] (by decide) (by simp; decide) (by simp))
  | error name message front middle back =>
    .element (.ofStrings "error" [] (by decide) (by simp) (by simp))
      (spaced [(front, nameChild name), (middle, messageChild message)] back)

/-- The shortest `Section` to write one operation, without anything in the gaps. -/
def ofOperation : Operation → Section
  | .update target markup => changes [({}, .update target markup)] {}
  | .insert id position anchor markup => changes [({}, .insertShort id position anchor markup)] {}
  | .delete target => changes [({}, .delete target)] {}
  | .setAttribute target name value => changes [({}, .settings target { name, value } [] {})] {}
  | .eval code => changes [({}, .eval code)] {}
  | .redirect url => redirect url
  | .error name message => error name message {} {} {}

/-- The section `ofOperation op` asks for this operation and for nothing else. -/
theorem operations_ofOperation (op : Operation) : (ofOperation op).operations = [op] := by
  cases op <;> rfl

end Section

/-- A response as it is written: `sections` in a root. All gaps are free, and so is what stands
    around the root. -/
structure Response where
  /-- What stands in front of the root, each behind blanks. -/
  front : List (Blanks × Xml.Aside) := []
  /-- Blanks directly in front of the root. -/
  lead : Blanks := .empty
  /-- The id that the response gives itself. -/
  id : Option String := none
  /-- The children of the root, each behind a gap. -/
  sections : List (Gap × Section) := []
  /-- The gap behind the last of them. -/
  last : Gap := {}
  /-- What stands behind the root, each behind blanks. -/
  back : List (Blanks × Xml.Aside) := []
  /-- Blanks at the end. -/
  tail : Blanks := .empty

namespace Response

/-- The operations that the response `r` asks for, in the order of its sections. -/
def operations (r : Response) : List Operation :=
  r.sections.flatMap fun s => s.2.operations

/-- What stands in the root of `r`. -/
def content (r : Response) : Content :=
  spaced (r.sections.map fun s => (s.1, s.2.child)) r.last

/-- The response `r` as a document, with all that stands around its root. -/
def document (r : Response) : Xml.Document where
  front := r.front
  lead := r.lead
  tag := responseTag r.id
  content := r.content
  back := r.back
  tail := r.tail

/-- The response `r` as a text. -/
def text (r : Response) : String :=
  String.ofList r.document.write

end Response

/-- The operations `ops` can be carried by a response: each is complete, and at most one is a
    report. -/
structure Writable (ops : List Operation) : Prop where
  /-- Each operation names what it has to. -/
  complete : ∀ op ∈ ops, IsComplete op
  /-- At most one is the report of a failure. -/
  single : (ops.filterMap Operation.errorReport?).length ≤ 1

/-! ### Reading responses -/

/-- Parts that are read one by one as their `operations` are read together, whatever stands in the
    gaps. -/
theorem mapM_spaced {α : Type} {f : Element → Except OperationFault (List Operation)}
    (hf : ∀ e, e.name = "extension" → f e = .ok []) {xs : List (Gap × α)} {last : Gap}
    {child : α → Child} {operations : α → List Operation}
    (heach : ∀ x ∈ xs, f (child x.2).toElement = .ok (operations x.2)) :
    (((spaced (xs.map fun x => (x.1, child x.2)) last).elements).mapM f).map List.flatten =
      .ok (xs.flatMap fun x => operations x.2) := by
  have hall : (xs.map fun x => (child x.2).toElement).mapM f =
      .ok (xs.map fun x => operations x.2) := mapM_map heach
  have helements : (xs.map fun x => (x.1, child x.2)).map (fun c => c.2.toElement) =
      xs.map fun x => (child x.2).toElement := List.map_map
  rw [mapM_meant hf, meant_spaced, ← mapM_meant hf, helements, hall]
  rfl

/-- A text of a report is found by the `name` of its element, and not by those in the gaps. -/
theorem childContent_eq {e child : Element} (name : String) (hname : name ≠ "extension")
    {children : List Element} (hmeant : meant e.elements = meant children)
    (hfind : children.find? (·.name = name) = some child) :
    childContent e name = child.content := by
  rw [childContent, Element.child?, find?_meant hname, hmeant, ← find?_meant hname, hfind]
  rfl

/-- A container of changes is read as what its `children` ask for, one after the other. -/
theorem operationsOf_changes {children : List (Gap × Change)}
    (heach : ∀ c ∈ children, ∀ op ∈ c.2.operations, IsComplete op) (last : Gap) :
    operationsOf (Section.changes children last).child.toElement =
      .ok (children.flatMap fun c => c.2.operations) := by
  have hreads : Reads (Section.changes children last).child.toElement _ _ := reads_element _
  have hextension : ∀ e : Element, e.name = "extension" → changeOperations e = .ok [] := by
    intro e he
    simp only [changeOperations, he]
    rfl
  simp only [operationsOf, hreads.name]
  rw [Section.child, changesTag, elements_element]
  exact mapM_spaced hextension fun c hc => changeOperations_child c.2 (heach c hc)

/-- A redirect is read as the redirect to its `url`. -/
theorem operationsOf_redirect {url : String} (hurl : url ≠ "") :
    operationsOf (Section.redirect url).child.toElement = .ok [.redirect url] := by
  have hreads : Reads (Section.redirect url).child.toElement _ _ := reads_single
  have hnamed : (Section.redirect url).child.toElement.nonEmpty? "url" = some url :=
    hreads.nonEmpty? rfl hurl
  simp only [operationsOf, hreads.name, hnamed]

/-- The `name` and the `message` of a report are found in their elements, whatever stands in the
    gaps around these. -/
theorem childContent_error (name message : String) (front middle back : Gap) :
    childContent (Section.error name message front middle back).child.toElement "error-name" =
        name ∧
      childContent (Section.error name message front middle back).child.toElement
        "error-message" = message := by
  have hmeant : meant (Section.error name message front middle back).child.toElement.elements =
      meant [(nameChild name).toElement, (messageChild message).toElement] := by
    rw [Section.child, elements_element, meant_spaced]
    rfl
  have hfirst : (nameChild name).toElement.name = "error-name" := (reads_element _).name
  have hsecond : (messageChild message).toElement.name = "error-message" := (reads_element _).name
  constructor
  · have hname : childContent (Section.error name message front middle back).child.toElement
        "error-name" = (nameChild name).toElement.content :=
      childContent_eq "error-name" (by decide) hmeant (by simp [hfirst])
    rw [hname]
    exact content_element name
  · have htext : childContent (Section.error name message front middle back).child.toElement
        "error-message" = (messageChild message).toElement.content :=
      childContent_eq "error-message" (by decide) hmeant (by simp [hfirst, hsecond])
    rw [htext]
    exact content_element message

/-- The report of a failure is read as its `name`, which must have no blanks around it, and its
    `message`. -/
theorem operationsOf_error {name : String} (hname : Text.trim name = name) (message : String)
    (front middle back : Gap) :
    operationsOf (Section.error name message front middle back).child.toElement =
      .ok [.error name message] := by
  have hreads : Reads (Section.error name message front middle back).child.toElement _ _ :=
    reads_element _
  obtain ⟨hfirst, hsecond⟩ := childContent_error name message front middle back
  simp only [operationsOf, hreads.name]
  rw [hfirst, hsecond, hname]

/-- **A child `s` of the root is read as what it asks for**, if what it asks for names what it has
    to. -/
theorem operationsOf_child (s : Section) (h : ∀ op ∈ s.operations, IsComplete op) :
    operationsOf s.child.toElement = .ok s.operations := by
  cases s with
  | changes children last =>
    exact operationsOf_changes (fun c hc op hop => h op (List.mem_flatMap.mpr ⟨c, hc, hop⟩)) last
  | redirect url => exact operationsOf_redirect (h _ List.mem_cons_self)
  | error name message front middle back =>
    exact operationsOf_error (h _ List.mem_cons_self) message front middle back

/-- If there is at most one report, pushing `ops` drops none of them. -/
theorem operations_foldl_push_of_single {ops : List Operation} (changes : ChangeSet)
    (h : ((changes.operations ++ ops).filterMap Operation.errorReport?).length ≤ 1) :
    (ops.foldl ChangeSet.push changes).operations = changes.operations ++ ops := by
  induction ops generalizing changes with
  | nil => exact (List.append_nil _).symm
  | cons op ops ih =>
    have hpush : (changes.push op).operations = changes.operations ++ [op] := by
      unfold ChangeSet.push
      rw [if_neg]
      intro hboth
      rw [Bool.and_eq_true, ChangeSet.error?, ← List.head?_filterMap] at hboth
      obtain ⟨report, hreport⟩ := Option.isSome_iff_exists.mp hboth.1
      -- a report before this one and this one are two
      have hempty : changes.operations.filterMap Operation.errorReport? = [] := by
        rw [List.filterMap_append, List.filterMap_cons_some hreport, List.length_append,
          List.length_cons] at h
        exact List.eq_nil_of_length_eq_zero (by omega)
      rw [hempty] at hboth
      cases hboth.2
    rw [List.foldl_cons, ih _ (by rwa [hpush, List.append_assoc]), hpush, List.append_assoc]
    rfl

/-- The root of the response `r` is read as it was written. -/
theorem root_eq (r : Response) :
    r.document.root = r.content.addTo ⟨"partial-response", idAttribute r.id, []⟩ := by
  rw [Xml.Document.root, Response.document, responseTag, Tag.element_ofStrings]

/-- A response that can be carried is read as a whole: its `id` and all of its operations. -/
theorem ofDocument_text (r : Response) (h : Writable r.operations) :
    ChangeSet.ofDocument r.text = .ok { responseId := r.id, operations := r.operations } := by
  have hread : Element.parse r.text = .ok r.document.root := Xml.parse_write r.document
  have hroot : Reads r.document.root "partial-response" (idAttribute r.id) := by
    rw [root_eq]
    exact reads_addTo _
  have hid : r.document.root.attribute? "id" = r.id := by
    rw [Element.attribute?, hroot.attributes]
    cases r.id <;> rfl
  have heach : ∀ s ∈ r.sections, operationsOf s.2.child.toElement = .ok s.2.operations :=
    fun s hs => operationsOf_child s.2 fun op hop =>
      h.complete op (List.mem_flatMap.mpr ⟨s, hs, hop⟩)
  have hextension : ∀ e : Element, e.name = "extension" → operationsOf e = .ok [] := by
    intro e he
    simp only [operationsOf, he]
    rfl
  have hsections : (r.document.root.elements.mapM operationsOf).map List.flatten =
      .ok r.operations := by
    rw [root_eq, Content.elements_addTo]
    exact mapM_spaced hextension heach
  -- at most one report, so that none is dropped on the way into the change set
  have hkept : (ChangeSet.ofList r.operations).operations = r.operations :=
    operations_foldl_push_of_single {} h.single
  rw [ChangeSet.ofDocument_of_mapM hread hroot.name hsections hkept, hid]

/-- **What was written is read back.** Every list `ops` that a response can carry is written by some
    response, and however it is written, reading gives it back in its order. -/
theorem parse_written (reserved : ReservedIds) {ops : List Operation} (h : Writable ops) :
    (∃ r : Response, r.operations = ops) ∧ ∀ r : Response, r.operations = ops →
      ({ reserved } : Parser).parse r.text =
        .ok ⟨{ responseId := r.id, operations := ops }, "structured"⟩ := by
  constructor
  · refine ⟨{ sections := ops.map fun op => ({}, Section.ofOperation op) }, ?_⟩
    simp [Response.operations, List.flatMap_map, Section.operations_ofOperation]
  · rintro r rfl
    exact parse_of_ofDocument (ofDocument_text r h) reserved [Strategy.regions]

/-- The end of character data in a markup, a quote in an id and a comment between two changes do no
    harm to `ops`. -/
theorem parse_brackets :
    let ops : List Operation :=
      [.update "f" "a]]>b", .insert none .after "\"" "<p>", .setAttribute "f" "class" "<&>"]
    let long : Change := .insertLong none .after "\"" "<p>" {} {}
    let settings : Change := .settings "f" { name := "class", value := "<&>" } [] {}
    let comment : Gap := { fillers := [({}, .aside (.comment "<update>".toList))] }
    let r : Response := {
      id := some "i"
      sections :=
        [({}, .changes [({}, .update "f" "a]]>b"), (comment, long)] {}),
          ({}, .changes [({}, settings)] {})] }
    Writable ops ∧ r.operations = ops ∧
      r.text = "<partial-response id=\"i\"><changes>" ++
        "<update id=\"f\"><![CDATA[a]]]]><![CDATA[>b]]></update><!--<update>-->" ++
        "<insert><after id=\"&quot;\"><![CDATA[<p>]]></after></insert></changes>" ++
        "<changes><attributes id=\"f\"><attribute name=\"class\" value=\"&lt;&amp;&gt;\"/>" ++
        "</attributes></changes></partial-response>" ∧
      ({} : Parser).parse r.text =
        .ok ⟨{ responseId := some "i", operations := ops }, "structured"⟩ := by
  intro ops long settings comment r
  have hops : Writable ops := ⟨by decide, by decide⟩
  refine ⟨hops, rfl, ?_, (parse_written {} hops).2 r rfl⟩
  decide +kernel

end PagePatch.Wire
