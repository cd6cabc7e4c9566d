import Mathlib.Data.List.Chain
import PagePatch.Proofs.Xml.Content
import PagePatch.Xml.Markup

namespace PagePatch.Xml

/-!
# Elements that are written out again

An element of a document is written out as markup. What was data in the document is data in the
markup: when this is read again, it is the same element.

* `Node.allElements` — the elements of a tree;
* `Element.Tidy`, `tidy_of_parse` — what holds of every element that was read: no key occurs twice,
  and no two texts stand side by side;
* `Element.IsPlain` — an element that is written with both of its tags and with escaped text;
* `Restates`, `exists_content` — nodes that are written out are content of a document;
* `Element.pruned`, `reread` — reading what was written out, but for empty texts.
-/

/-! ### Escaping -/

/-- A character `c` of text is read as it was, from the way it is written out. -/
theorem unescape_escapeInText (c : Char) (rest : List Char) :
    unescape none (escapeInText c ++ rest) = (unescape none rest).map (c :: ·) := by
  unfold escapeInText
  split
  · rename_i h
    rw [h]
    rfl
  · rename_i hamp
    split
    · rename_i h
      rw [h]
      rfl
    · split
      · rename_i h
        rw [h]
        rfl
      · rw [List.singleton_append, unescape, if_neg hamp]

/-- So is a character `c` of a value. -/
theorem unescape_escapeInValue (c : Char) (rest : List Char) :
    unescape none (escapeInValue c ++ rest) = (unescape none rest).map (c :: ·) := by
  unfold escapeInValue
  split
  · rename_i h
    rw [h]
    rfl
  · rename_i hamp
    split
    · rename_i h
      rw [h]
      rfl
    · rw [List.singleton_append, unescape, if_neg hamp]

/-- No tag begins in the text `s` when it is written out. -/
theorem lt_not_mem_escapeInText (s : List Char) : '<' ∉ s.flatMap escapeInText := by
  refine not_mem_flatMap (fun c => ?_) s
  unfold escapeInText
  split
  · decide
  · split
    · decide
    · rename_i hlt
      split
      · decide
      · exact fun hmem => hlt (List.mem_singleton.mp hmem).symm

/-- No quote is left in the value `s` when it is written out. -/
theorem quote_not_mem_escapeInValue (s : List Char) : '"' ∉ s.flatMap escapeInValue := by
  refine not_mem_flatMap (fun c => ?_) s
  unfold escapeInValue
  split
  · decide
  · split
    · decide
    · rename_i hquote
      exact fun hmem => hquote (List.mem_singleton.mp hmem).symm

/-! ### The elements of a tree -/

mutual

/-- The elements of a tree, in document order, each with what is in it, as deep as they stand. -/
def Node.allElements : Node → List Element
  | .element name attributes children =>
    { name, attributes, children } :: allElementsOf children
  | .text _ => []

/-- The elements of a list of trees, those of the first tree first; see `Node.allElements`. -/
def Node.allElementsOf : List Node → List Element
  | [] => []
  | n :: rest => n.allElements ++ allElementsOf rest

end

/-- Whether a node is a `text`. -/
def Node.isText : Node → Bool
  | .text _ => true
  | .element .. => false

theorem Node.allElementsOf_append (ns ms : List Node) :
    allElementsOf (ns ++ ms) = allElementsOf ns ++ allElementsOf ms := by
  induction ns with
  | nil => rfl
  | cons n ns ih => rw [List.cons_append, allElementsOf, allElementsOf, ih, List.append_assoc]

/-- The element `e` and the elements in it. -/
def Element.allElements (e : Element) : List Element :=
  e :: Node.allElementsOf e.children

/-! ### Keys -/

/-- Where the step `f` behind `x` succeeds, both do. -/
theorem exists_of_bind {ε α β : Type} {x : Except ε α} {f : α → Except ε β} {b : β}
    (h : x >>= f = .ok b) : ∃ a, x = .ok a ∧ f a = .ok b := by
  cases x with
  | error => cases h
  | ok a => exact ⟨a, rfl, h⟩

/-- Attributes `as` of which no key occurs twice, or occurs among the keys that were `seen`. -/
structure Fresh (seen : List (List Char × Nat)) (as : List (String × String)) : Prop where
  distinct : (as.map Prod.fst).Nodup
  new : ∀ a ∈ as, seen.lookup a.1.toList = none

/-- What the reader of attributes finds from `mode` on: where it is at a value, first the attribute
    of this value, and then attributes whose keys are new. -/
def Finds (mode : AttributeMode) (seen : List (List Char × Nat)) (as : List (String × String)) :
    Prop :=
  match mode with
  | .between | .key .. | .afterKey .. => Fresh seen as
  | .beforeValue key | .value key _ _ =>
    ∃ value rest, as = (String.ofList key, value) :: rest ∧ Fresh seen rest

/-- A `key` that ends is new. With the attributes that are found behind it, it is new to those that
    were seen. -/
theorem fresh_of_endKey {seen : List (List Char × Nat)} {start : Nat} {key : List Char}
    {next : AttributeMode} (h : endKey seen start key = .ok next) {as : List (String × String)}
    (has : Finds next ((key, start) :: seen) as) : Fresh seen as := by
  unfold endKey at h
  split at h
  · cases h
  · rename_i hnew
    cases h
    obtain ⟨value, rest, rfl, hrest⟩ := has
    -- the keys behind this one are new to it and to those that were seen
    have hothers : ∀ a ∈ rest, a.1 ≠ String.ofList key ∧ seen.lookup a.1.toList = none := by
      intro a ha
      have hlookup := hrest.new a ha
      rw [List.lookup_cons] at hlookup
      split at hlookup
      · cases hlookup
      · rename_i hne
        refine ⟨?_, hlookup⟩
        rintro heq
        rw [heq, String.toList_ofList] at hne
        simp at hne
    constructor
    · rw [List.map_cons, List.nodup_cons]
      refine ⟨fun hmem => ?_, hrest.distinct⟩
      obtain ⟨a, ha, heq⟩ := List.mem_map.mp hmem
      exact (hothers a ha).1 heq
    · intro a ha
      rcases List.mem_cons.mp ha with rfl | ha
      · rw [String.toList_ofList]
        exact hnew
      · exact (hothers a ha).2

/-- **No key occurs twice** among the attributes `as` that are read, whatever `mode` the reader is
    in. -/
theorem finds_of_readAttributes {mode : AttributeMode} {seen : List (List Char × Nat)} {pos : Nat}
    {s : List Char} {as : List (String × String)}
    (h : readAttributes mode seen pos s = .ok as) : Finds mode seen as := by
  -- each mode says what is still to be found, and a key that ends joins those that were seen
  induction s generalizing mode seen pos as with
  | nil =>
    cases mode with
    | between =>
      cases h
      -- only between attributes can the text end
      exact ⟨.nil, nofun⟩
    | key | afterKey | beforeValue | value => cases h
  | cons c rest ih =>
    cases mode with
    | between =>
      simp only [readAttributes] at h
      split at h
      · exact ih h
      · have hkey := ih h
        exact hkey
    | key start read =>
      simp only [readAttributes] at h
      split at h
      · obtain ⟨next, hkey, hnext⟩ := exists_of_bind h
        exact fresh_of_endKey hkey (ih hnext)
      · split at h
        · have hafter := ih h
          exact hafter
        · have hmore := ih h
          exact hmore
    | afterKey start key =>
      simp only [readAttributes] at h
      split at h
      · exact ih h
      · split at h
        · obtain ⟨next, hkey, hnext⟩ := exists_of_bind h
          exact fresh_of_endKey hkey (ih hnext)
        · cases h
    | beforeValue key =>
      simp only [readAttributes] at h
      split at h
      · exact ih h
      · split at h
        · have hvalue := ih h
          exact hvalue
        · cases h
    | value key quote read =>
      simp only [readAttributes] at h
      split at h
      · -- the quote ends the value, and the other attributes stand behind it
        obtain ⟨others, hothers, hall⟩ := exists_of_bind h
        cases hall
        exact ⟨_, others, rfl, ih hothers⟩
      · have hmore := ih h
        exact hmore

/-! ### Elements that were read -/

/-- What holds of every element `e` that was read. -/
structure Element.Tidy (e : Element) : Prop where
  /-- No key occurs twice. -/
  distinct : (e.attributes.map Prod.fst).Nodup
  /-- No two texts stand side by side. -/
  apart : e.children.IsChain fun n m => ¬ (n.isText = true ∧ m.isText = true)

/-- The element `e` is tidy, and so are all elements in it, however deep. -/
structure Element.AllTidy (e : Element) : Prop extends e.Tidy where
  inner : ∀ x ∈ Node.allElementsOf e.children, x.Tidy

/-- The element `e` that a start tag opens: its keys are distinct, and nothing stands in it. -/
theorem Element.AllTidy.ofTag {inside : List Char} {e : Element}
    (h : Element.ofTag inside = .ok e) : e.AllTidy := by
  unfold Element.ofTag at h
  simp only at h
  split at h
  · cases h
  · rename_i attributes hattributes
    cases h
    exact ⟨⟨(finds_of_readAttributes hattributes).distinct, .nil⟩, nofun⟩

/-- A `child` that is an element stands beside no text that it would be joined to. -/
theorem Element.AllTidy.addChild {e child : Element} (h : e.AllTidy) (hchild : child.AllTidy) :
    (e.addChild child.toNode).AllTidy where
  distinct := h.distinct
  apart := by
    refine List.isChain_append.mpr ⟨h.apart, .singleton _, ?_⟩
    rintro n - m hm ⟨-, htext⟩
    cases Option.mem_some_iff.mp hm
    cases htext
  inner := by
    intro x hx
    have helements : Node.allElementsOf [child.toNode] = child.allElements :=
      List.append_nil _
    rw [Element.addChild, Node.allElementsOf_append, helements] at hx
    rcases List.mem_append.mp hx with hx | hx
    · exact h.inner x hx
    · rcases List.mem_cons.mp hx with rfl | hx
      · exact hchild.toTidy
      · exact hchild.inner x hx

/-- The text `s` is joined to the text in front of it, so that no two texts come to stand side by
    side. -/
theorem Element.AllTidy.addText {e : Element} (h : e.AllTidy) (s : String) :
    (e.addText s).AllTidy := by
  unfold Element.addText
  split
  · -- the last child is a text and stays one, so it has the same neighbour
    rename_i before hlast
    have hchildren : e.children = e.children.dropLast ++ [.text before] :=
      (List.dropLast_append_getLast? _ hlast).symm
    have hapart := h.apart
    have hinner := h.inner
    rw [hchildren] at hapart hinner
    rw [Node.allElementsOf_append] at hinner
    obtain ⟨hfront, -, hjoin⟩ := List.isChain_append.mp hapart
    refine ⟨⟨h.distinct, List.isChain_append.mpr ⟨hfront, .singleton _, ?_⟩⟩, ?_⟩
    · rintro n hn m hm
      cases Option.mem_some_iff.mp hm
      exact hjoin n hn (.text before) rfl
    · intro x hx
      rw [Node.allElementsOf_append] at hx
      exact hinner x hx
  · rename_i hlast
    refine ⟨⟨h.distinct, List.isChain_append.mpr ⟨h.apart, .singleton _, ?_⟩⟩, ?_⟩
    · rintro n hn m - ⟨htext, -⟩
      cases n with
      | text before => exact hlast before hn
      | element => cases htext
    · intro x hx
      rw [Element.addChild, Node.allElementsOf_append] at hx
      exact h.inner x ((List.mem_append.mp hx).resolve_right (List.not_mem_nil))

/-- All elements that were read so far are tidy: those that are open in `r`, and the root. -/
structure Reading.Tidy (r : Reading) : Prop where
  stack : ∀ e ∈ r.stack, e.AllTidy
  root : ∀ e ∈ r.root, e.AllTidy

namespace Reading.Tidy

variable {r r' : Reading}

/-- A tidy element `e` is put into its parent, or is the root. -/
theorem attach (h : r.Tidy) {e : Element} (he : e.AllTidy) (hr : r.attach e = .ok r') :
    r'.Tidy := by
  unfold Reading.attach at hr
  split at hr
  · rename_i parent outer hstack
    have hall := h.stack
    rw [hstack, List.forall_mem_cons] at hall
    cases hr
    exact ⟨List.forall_mem_cons.mpr ⟨hall.1.addChild he, hall.2⟩, h.root⟩
  · split at hr
    · cases hr
    · cases hr
      refine ⟨h.stack, fun x hx => ?_⟩
      cases Option.mem_some_iff.mp hx
      exact he

theorem addText (h : r.Tidy) {s : String} (hr : r.addText s = .ok r') : r'.Tidy := by
  unfold Reading.addText at hr
  split at hr
  · rename_i parent outer hstack
    have hall := h.stack
    rw [hstack, List.forall_mem_cons] at hall
    cases hr
    exact ⟨List.forall_mem_cons.mpr ⟨hall.1.addText s, hall.2⟩, h.root⟩
  · split at hr
    · cases hr
      exact h
    · cases hr

/-- The `event` leaves the elements of `r` tidy. -/
theorem step (h : r.Tidy) {event : Event} (hr : r.step event = .ok r') : r'.Tidy := by
  cases event with
  | start inside =>
    obtain ⟨e, htag, hopened⟩ := exists_of_bind hr
    cases hopened
    exact ⟨List.forall_mem_cons.mpr ⟨.ofTag htag, h.stack⟩, h.root⟩
  | empty inside =>
    obtain ⟨e, htag, hattach⟩ := exists_of_bind hr
    exact h.attach (.ofTag htag) hattach
  | finish name pos =>
    simp only [Reading.step] at hr
    split at hr
    · cases hr
    · rename_i e outer hstack
      have hall := h.stack
      rw [hstack, List.forall_mem_cons] at hall
      split at hr
      · have hrest : Reading.Tidy { r with stack := outer } := ⟨hall.2, h.root⟩
        exact hrest.attach hall.1 hr
      · cases hr
  | text raw => exact h.addText hr
  | cdata raw => exact h.addText hr

/-- All `events` that are left lead to a tidy root, if they lead to one. -/
theorem run (h : r.Tidy) {events : Events} {e : Element} (he : r.run events = .ok e) :
    e.AllTidy := by
  induction events generalizing r with
  | done =>
    unfold Reading.run Reading.result at he
    split at he
    · cases he
    · rename_i hroot
      cases he
      exact h.root _ hroot
    · cases he
  | failed fault => cases he
  | more event rest ih =>
    rw [Reading.run] at he
    cases hstep : r.step event with
    | error fault =>
      rw [hstep] at he
      cases he
    | ok r' =>
      rw [hstep] at he
      exact ih (h.step hstep) he

end Reading.Tidy

/-- **Elements that were read are tidy,** whatever text `raw` they were read from. -/
theorem tidy_of_parse {raw : String} {e : Element} (h : Element.parse raw = .ok e) :
    e.AllTidy := by
  have hstart : Reading.Tidy {} := by
    constructor
    · intro e he
      cases he
    · intro e he
      cases he
  exact hstart.run h

/-! ### Elements that are written out -/

namespace Element

/-- The element `e` is written with both of its tags and with escaped text, and its name and keys
    can be written. -/
def IsPlain (e : Element) : Prop :=
  IsName e.name.toList ∧ (∀ a ∈ e.attributes, IsName a.1.toList) ∧
    isNamed e.name voidElements = false ∧ isNamed e.name rawTextElements = false

instance : DecidablePred IsPlain := fun e =>
  inferInstanceAs (Decidable (IsName e.name.toList ∧ (∀ a ∈ e.attributes, IsName a.1.toList) ∧
    isNamed e.name voidElements = false ∧ isNamed e.name rawTextElements = false))

/-- The start tag of the element `e` as it is written out. -/
def writtenTag (e : Element) (hplain : e.IsPlain) (htidy : e.Tidy) : Tag where
  name := e.name.toList
  attributes := e.attributes.map fun a => (a.1.toList, a.2.toList.flatMap escapeInValue)
  isName := hplain.1
  keys := by
    intro a ha
    obtain ⟨b, hb, rfl⟩ := List.mem_map.mp ha
    exact hplain.2.1 b hb
  values := by
    intro a ha
    obtain ⟨b, -, rfl⟩ := List.mem_map.mp ha
    exact quote_not_mem_escapeInValue _
  distinct := by
    have hkeys := nodup_toList htidy.distinct
    rwa [List.map_map] at hkeys ⊢

variable {e : Element} (hplain : e.IsPlain) (htidy : e.Tidy)

/-- The tag `writtenTag` is read as that of the element `e`. -/
theorem element_writtenTag : (e.writtenTag hplain htidy).element = { e with children := [] } := by
  have hvalues : (e.attributes.map fun a => (a.1.toList, a.2.toList.flatMap escapeInValue)).map
      (fun a => (String.ofList a.1, String.ofList (unescapeOrRaw a.2))) = e.attributes := by
    rw [List.map_map]
    refine List.map_id'' (fun a => ?_) e.attributes
    simp only [Function.comp_apply, unescapeOrRaw_flatMap unescape_escapeInValue,
      String.ofList_toList]
  simp only [Tag.element, writtenTag, hvalues, String.ofList_toList]

/-- The element `e` is written out as this tag, what is in it, and its end tag. -/
theorem write_plain (raw : Bool) : e.toNode.write raw = '<' :: (e.writtenTag hplain htidy).inside ++
    ['>'] ++ writeNodes false e.children ++ endTagText (e.writtenTag hplain htidy).name := by
  have hattributes : e.attributes.flatMap writeAttribute =
      attributesText (e.attributes.map fun a =>
        (a.1.toList, a.2.toList.flatMap escapeInValue)) := by
    rw [attributesText, List.flatMap_map]
    refine List.flatMap_congr fun a _ => ?_
    simp [writeAttribute, attributeText]
  have hvoid : isNamed e.name voidElements = false := hplain.2.2.1
  have hraw : isNamed e.name rawTextElements = false := hplain.2.2.2
  rw [toNode, Node.write, hvoid, hraw, writeStart, hattributes]
  simp [writtenTag, Tag.inside, writeEnd, endTagText]

end Element

/-! ### Empty texts -/

mutual

/-- A tree without the empty texts in it, which leave no trace when `write` writes them out. -/
def Node.pruned : Node → Node
  | .element name attributes children => .element name attributes (prunedOf children)
  | .text s => .text s

/-- A list of trees without their empty texts, those on top included; see `Node.pruned`. -/
def Node.prunedOf : List Node → List Node
  | [] => []
  | n :: rest =>
    match n with
    | .text s => if s = "" then prunedOf rest else .text s :: prunedOf rest
    | .element name attributes children =>
      Node.pruned (.element name attributes children) :: prunedOf rest

end

/-- The element `e` without the empty texts in it. -/
def Element.pruned (e : Element) : Element :=
  { e with children := Node.prunedOf e.children }

/-- Trees without empty texts, on top or further down, are as they are: `prunedOf` takes nothing
    away. -/
theorem Node.prunedOf_eq_self : ∀ {nodes : List Node}, (∀ n ∈ nodes, n ≠ .text "") →
    (∀ x ∈ allElementsOf nodes, ∀ n ∈ x.children, n ≠ .text "") → prunedOf nodes = nodes
  | [], _, _ => rfl
  | .text s :: rest, htop, hall => by
    have hs : s ≠ "" := fun h => htop (.text s) List.mem_cons_self (congrArg Node.text h)
    have hrest := prunedOf_eq_self (fun n hn => htop n (List.mem_cons_of_mem _ hn)) hall
    rw [prunedOf, if_neg hs, hrest]
  | .element name attributes children :: rest, htop, hall => by
    have hinner := prunedOf_eq_self
      (hall ⟨name, attributes, children⟩ (List.mem_append_left _ List.mem_cons_self))
      fun x hx => hall x (List.mem_append_left _ (List.mem_cons_of_mem _ hx))
    have hrest := prunedOf_eq_self (fun n hn => htop n (List.mem_cons_of_mem _ hn))
      fun x hx => hall x (List.mem_append_right _ hx)
    rw [prunedOf, Node.pruned, hinner, hrest]

/-! ### Reading what was written out -/

/-- The text `s` as it is written out, which is a run between markup. -/
def writtenRun (s : String) : Run where
  chars := s.toList.flatMap escapeInText
  plain := lt_not_mem_escapeInText _

/-- It adds the text `s` to the element that it stands in, if it is not empty. -/
theorem addTo_writtenRun (s : String) (e : Element) :
    (writtenRun s).addTo e = if s = "" then e else e.addText s := by
  have hread : unescapeOrRaw (writtenRun s).chars = s.toList :=
    unescapeOrRaw_flatMap unescape_escapeInText _
  have hempty : (writtenRun s).chars.isEmpty = true ↔ s = "" := by
    rw [List.isEmpty_iff]
    constructor
    · intro hnil
      rw [hnil] at hread
      exact String.toList_eq_nil_iff.mp hread.symm
    · rintro rfl
      rfl
  unfold Run.addTo
  rw [hread, String.ofList_toList]
  by_cases h : s = ""
  · rw [if_pos (hempty.mpr h), if_pos h]
  · rw [if_neg (mt hempty.mp h), if_neg h]

/-- The text `s` behind an element is a child of its own. -/
theorem Element.addText_of_not_text {e : Element} (h : ∀ n ∈ e.children.getLast?, n.isText = false)
    (s : String) : e.addText s = e.addChild (.text s) := by
  unfold Element.addText
  split
  · rename_i hlast
    cases h _ hlast
  · rfl

/-- The content `c` stands for `nodes`, and for a `run` of text in front of them. -/
structure Restates (c : Content) (run : Run) (nodes : List Node) : Prop where
  /-- It is the text that these are written out as. -/
  write_eq : c.write = run.chars ++ writeNodes false nodes
  /-- It adds the run and the nodes to an element, where no text of the element and no text of the
      nodes meet. -/
  addTo_eq : ∀ e : Element,
    ((∀ n ∈ e.children.getLast?, n.isText = false) ∨ ∀ n ∈ nodes.head?, n.isText = false) →
      c.addTo e = { run.addTo e with
        children := (run.addTo e).children ++ Node.prunedOf nodes }

/-- A `run` alone stands for no nodes. -/
theorem restates_nil (run : Run) : Restates (.text run) run [] where
  write_eq := (List.append_nil _).symm
  addTo_eq e _ := by simp [Content.addTo, Node.prunedOf]

/-- A text in front of `rest` is the run in front of what these nodes are written out as. None of
    them comes first that is a text. -/
theorem Restates.text {c : Content} {s : String} {rest : List Node}
    (h : Restates c (writtenRun s) rest) (hnext : ∀ n ∈ rest.head?, n.isText = false) {run : Run}
    (hempty : run.chars = []) : Restates c run (.text s :: rest) where
  write_eq := by
    rw [h.write_eq, hempty]
    rfl
  addTo_eq e he := by
    have hlast : ∀ n ∈ e.children.getLast?, n.isText = false := by
      refine he.resolve_right fun hfirst => ?_
      cases hfirst (.text s) rfl
    have hnone : run.addTo e = e := by rw [Run.addTo, hempty]; rfl
    rw [h.addTo_eq e (.inr hnext), hnone, addTo_writtenRun, Node.prunedOf]
    dsimp only
    split
    · rfl
    · rw [Element.addText_of_not_text hlast, Element.addChild]
      simp

/-- An element, with content `inner` for what is in it and content `after` for the nodes behind
    it. -/
theorem Restates.element {e : Element} (hplain : e.IsPlain) (htidy : e.Tidy) {inner after : Content}
    {rest : List Node} (hinner : Restates inner .empty e.children)
    (hafter : Restates after .empty rest) (run : Run) :
    Restates (.element run (e.writtenTag hplain htidy) inner after) run (e.toNode :: rest) where
  write_eq := by
    rw [Content.write, hinner.write_eq, hafter.write_eq, writeNodes,
      Element.write_plain hplain htidy false]
    simp [Run.empty]
  addTo_eq parent _ := by
    have htag : inner.addTo (e.writtenTag hplain htidy).element = e.pruned := by
      rw [Element.element_writtenTag, hinner.addTo_eq _ (.inl (by rintro n ⟨⟩))]
      rfl
    rw [Content.addTo, htag, hafter.addTo_eq _ (.inl ?_)]
    · simp [Run.addTo, Run.empty, Element.addChild, Element.toNode, Element.pruned, Node.pruned,
        Node.prunedOf]
    · -- the last child is an element now
      simp [Element.addChild, Element.toNode, Node.isText]

/-- **Nodes that are written out are content**, behind a `run` of text that stands in front of them.
    No two texts meet, so that none is joined to another when it is read. -/
theorem exists_content : ∀ {nodes : List Node},
    (∀ x ∈ Node.allElementsOf nodes, x.IsPlain ∧ x.Tidy) →
    nodes.IsChain (fun n m => ¬ (n.isText = true ∧ m.isText = true)) → ∀ run : Run,
    (run.chars = [] ∨ ∀ n ∈ nodes.head?, n.isText = false) → ∃ c : Content, Restates c run nodes
  | [], _, _, run, _ => ⟨.text run, restates_nil run⟩
  | .text s :: rest, hall, hchain, run, hrun => by
    have hempty : run.chars = [] := by
      -- a text comes first here, so nothing can stand in front of it
      refine hrun.resolve_right fun hfirst => ?_
      cases hfirst (.text s) rfl
    have hnext : ∀ n ∈ rest.head?, n.isText = false := by
      intro n hn
      have hapart := (List.isChain_cons.mp hchain).1 n hn
      simpa [Node.isText] using hapart
    have hrest : ∀ x ∈ Node.allElementsOf rest, x.IsPlain ∧ x.Tidy := hall
    obtain ⟨c, hc⟩ := exists_content hrest (List.isChain_cons.mp hchain).2 (writtenRun s)
      (.inr hnext)
    exact ⟨c, hc.text hnext hempty⟩
  | .element name attributes children :: rest, hall, hchain, run, _ => by
    obtain ⟨hplain, htidy⟩ :=
      hall ⟨name, attributes, children⟩ (List.mem_append_left _ List.mem_cons_self)
    have hchildren : ∀ x ∈ Node.allElementsOf children, x.IsPlain ∧ x.Tidy :=
      fun x hx => hall x (List.mem_append_left _ (List.mem_cons_of_mem _ hx))
    have hrest : ∀ x ∈ Node.allElementsOf rest, x.IsPlain ∧ x.Tidy :=
      fun x hx => hall x (List.mem_append_right _ hx)
    obtain ⟨inner, hinner⟩ := exists_content hchildren htidy.apart .empty (.inl rfl)
    obtain ⟨after, hafter⟩ := exists_content hrest (List.isChain_cons.mp hchain).2 .empty (.inl rfl)
    exact ⟨_, hinner.element hplain htidy hafter run⟩

/-- An element `e` that was read and is plain all through is written out as a document. This is read
    as the element, without its empty texts. -/
theorem parse_write_pruned {raw : String} {e : Element} (h : Element.parse raw = .ok e)
    (hplain : ∀ x ∈ e.allElements, x.IsPlain) : Element.parse e.write = .ok e.pruned := by
  have htidy := tidy_of_parse h
  obtain ⟨hthis, hinner⟩ := List.forall_mem_cons.mp hplain
  obtain ⟨c, hc⟩ := exists_content (fun x hx => ⟨hinner x hx, htidy.inner x hx⟩) htidy.apart .empty
    (.inl rfl)
  let d : Document := { tag := e.writtenTag hthis htidy.toTidy, content := c }
  have htext : e.write = String.ofList d.write := by
    rw [Element.write, Element.write_plain hthis htidy.toTidy]
    simp [d, Document.write, Document.rootText, marginText, hc.write_eq, Run.empty, Blanks.empty]
  have hroot : d.root = e.pruned := by
    show c.addTo (e.writtenTag hthis htidy.toTidy).element = e.pruned
    rw [Element.element_writtenTag, hc.addTo_eq _ (.inl (by rintro n ⟨⟩))]
    rfl
  rw [htext, parse_write, hroot]

/-- **Reading what was written out.** An element `e` that was read, and that is plain all through,
    is written out as a text that is read as the element, without its empty texts. If it has none,
    it is the same element again. -/
theorem reread {raw : String} {e : Element} (h : Element.parse raw = .ok e)
    (hplain : ∀ x ∈ e.allElements, x.IsPlain) :
    Element.parse e.write = .ok e.pruned ∧
      ((∀ x ∈ e.allElements, ∀ n ∈ x.children, n ≠ .text "") →
        Element.parse e.write = .ok e) := by
  have hpruned := parse_write_pruned h hplain
  refine ⟨hpruned, fun hfull => ?_⟩
  obtain ⟨hthis, hinner⟩ := List.forall_mem_cons.mp hfull
  rw [hpruned, Element.pruned, Node.prunedOf_eq_self hthis hinner]

/-- An element with characters in its texts and values that mean something in markup, and with an
    empty text, which `pruned` drops. -/
def thorny : Element where
  name := "a"
  attributes := [("k", "<\"&\">")]
  children := [.text "x]]>", .element "b" [] [.text "<i> &amp;"], .text "", .element "c" [] []]

set_option maxRecDepth 2048 in
/-- The element `thorny` is read from its own markup with character data and references in it, and
    it is read again from the text that it is written out as. -/
theorem reread_thorny :
    Element.parse "<a k='<\"&amp;\">'>x<![CDATA[]]>]]><b>&lt;i> &amp;amp;</b><![CDATA[]]><c/></a>" =
      .ok thorny ∧
    thorny.write = "<a k=\"<&quot;&amp;&quot;>\">x]]&gt;<b>&lt;i&gt; &amp;amp;</b><c></c></a>" ∧
    Element.parse thorny.write = .ok thorny.pruned := by
  have hread : Element.parse
      "<a k='<\"&amp;\">'>x<![CDATA[]]>]]><b>&lt;i> &amp;amp;</b><![CDATA[]]><c/></a>" =
        .ok thorny := by
    rfl
  refine ⟨hread, by decide +kernel, ?_⟩
  exact (reread hread (by decide)).1

end PagePatch.Xml
