import PagePatch.Proofs.Engine.Response
import PagePatch.Proofs.Xml.Content

namespace PagePatch

/-!
# Responses that make sense

A response that can be read as a document is checked for what its parts have to name: an element, an
anchor, an attribute, an address. One part that does not ends the reading of the whole response, and
no other way of reading it is tried.

* `Sensible` — every part of a response names what it has to;
* `Part`, `partsOf` — the parts that have to name something, in document order;
* `Part.Lacks` — what a part fails to name;
* `Reports` — the reading of some parts succeeds or ends in the first fault;
* `screened_parse` — a response is read exactly if it makes sense, and told its first fault
  otherwise.
-/

/-! ### What the parts of a response name -/

namespace Xml.Element

/-- The element `e` has an attribute `key`, and its value is not empty. -/
def Names (e : Element) (key : String) : Prop :=
  ∃ value, e.attribute? key = some value ∧ value ≠ ""

/-- What `nonEmpty?` gives is the value of the attribute, if it is not empty. -/
theorem nonEmpty?_eq_some_iff {e : Element} {key value : String} :
    e.nonEmpty? key = some value ↔ e.attribute? key = some value ∧ value ≠ "" := by
  unfold nonEmpty?
  rw [Option.filter_eq_some_iff, decide_eq_true_eq]

/-- It gives none exactly if the element does not name anything under this `key`. -/
theorem nonEmpty?_eq_none_iff {e : Element} {key : String} :
    e.nonEmpty? key = none ↔ ¬ e.Names key := by
  rw [Option.eq_none_iff_forall_ne_some]
  constructor
  · rintro h ⟨value, hvalue⟩
    exact h value (nonEmpty?_eq_some_iff.mpr hvalue)
  · rintro h value hvalue
    exact h ⟨value, nonEmpty?_eq_some_iff.mp hvalue⟩

end Xml.Element

open Xml (Element)

/-- The insert `e` names its anchor, itself or by its first child for a position. -/
inductive Anchored (e : Element) : Prop
  /-- By an attribute of its own. -/
  | attribute (position : InsertPosition) (h : e.Names position.name)
  /-- By the id of a child. -/
  | child (position : InsertPosition) {c : Element} (hchild : e.child? position.name = some c)
    (h : c.Names "id")

/-- No anchor is found for the insert `e` exactly if it names none. -/
theorem anchorOf_eq_none_iff {e : Element} : anchorOf e = none ↔ ¬ Anchored e := by
  have hshort : ∀ position : InsertPosition,
      shortAnchor e position = none ↔ ¬ e.Names position.name := by
    intro position
    rw [shortAnchor, Option.map_eq_none_iff, Element.nonEmpty?_eq_none_iff]
  have hlong : ∀ position : InsertPosition, longAnchor e position = none ↔
      ∀ c, e.child? position.name = some c → ¬ c.Names "id" := by
    intro position
    simp only [longAnchor, Option.bind_eq_none_iff, Option.map_eq_none_iff,
      Element.nonEmpty?_eq_none_iff]
  have horElse : ∀ x y : Option (InsertPosition × String × String),
      (x <|> y) = none ↔ x = none ∧ y = none := by
    intro x y
    cases x <;> simp
  -- four places are looked at: each of the two ways, for each of the two positions
  simp only [anchorOf, horElse, hshort, hlong]
  constructor
  · rintro ⟨hbefore, hafter, hfirst, hsecond⟩ (⟨position, h⟩ | ⟨position, hchild, h⟩)
    · cases position with
      | before => exact hbefore h
      | after => exact hafter h
    · cases position with
      | before => exact hfirst _ hchild h
      | after => exact hsecond _ hchild h
  · intro h
    exact ⟨fun hname => h (.attribute .before hname), fun hname => h (.attribute .after hname),
      fun c hchild hname => h (.child .before hchild hname),
      fun c hchild hname => h (.child .after hchild hname)⟩

/-- Every part of a response with the given `root` names what it has to. -/
structure Sensible (root : Element) : Prop where
  /-- Updates, removals and changes of attributes name an element. -/
  targets : ∀ c ∈ root.elements, c.name = "changes" → ∀ e ∈ c.elements,
    e.name ∈ ["update", "delete", "attributes"] → e.Names "id"
  /-- Attributes have a name, possibly empty. -/
  attributes : ∀ c ∈ root.elements, c.name = "changes" → ∀ e ∈ c.elements,
    e.name = "attributes" → ∀ a ∈ e.elements, a.name = "attribute" →
      ∃ name, a.attribute? "name" = some name
  /-- Inserts name an anchor. -/
  anchors : ∀ c ∈ root.elements, c.name = "changes" → ∀ e ∈ c.elements,
    e.name = "insert" → Anchored e
  /-- Redirects name an address. -/
  addresses : ∀ e ∈ root.elements, e.name = "redirect" → e.Names "url"

/-! ### The parts in document order -/

/-- A part of a response that may have to name something; `Part.Sound` says what. -/
inductive Part where
  /-- A child of a `changes` container, whatever its name. -/
  | change (e : Element)
  /-- An `attribute` child of an `attributes` node. -/
  | setting (node e : Element)
  /-- A redirect. -/
  | redirect (e : Element)

/-- The parts of a child `e` of a `changes` container: the child itself, and then the attributes in
    it. -/
def partsOfChange (e : Element) : List Part :=
  .change e :: if e.name = "attributes" then
    (e.elements.filter (·.name = "attribute")).map (.setting e) else []

/-- The parts of a child `e` of the root: those of the changes in it, or the redirect that it is.
    Other children have none. -/
def partsOfChild (e : Element) : List Part :=
  match e.name with
  | "changes" => e.elements.flatMap partsOfChange
  | "redirect" => [.redirect e]
  | _ => []

/-- The parts of the response `root`, in document order. -/
def partsOf (root : Element) : List Part :=
  root.elements.flatMap partsOfChild

/-- The part fails to name something, and `fault` is what is told of it. -/
inductive Part.Lacks : Part → OperationFault → Prop
  /-- The element that it is about. -/
  | target {e : Element} (hname : e.name ∈ ["update", "delete", "attributes"])
    (h : ¬ e.Names "id") : Lacks (.change e) (.withoutId e.name)
  /-- The anchor of an insert. -/
  | anchor {e : Element} (hname : e.name = "insert") (h : ¬ Anchored e) :
    Lacks (.change e) (.insertWithoutAnchor (e.nonEmpty? "id"))
  /-- The attribute that is to be set. -/
  | name {node e : Element} (h : e.attribute? "name" = none) :
    Lacks (.setting node e) (.attributeWithoutName ((node.attribute? "id").getD ""))
  /-- The address of a redirect. -/
  | address {e : Element} (h : ¬ e.Names "url") : Lacks (.redirect e) .redirectWithoutUrl

/-- The part `p` fails to name nothing. -/
def Part.Sound (p : Part) : Prop :=
  ∀ fault, ¬ p.Lacks fault

namespace Part

/-- A child of a `changes` container is sound if it has an id, when it needs one, and an anchor,
    when it needs one. -/
theorem sound_change_iff {e : Element} : (change e).Sound ↔
    (e.name ∈ ["update", "delete", "attributes"] → e.Names "id") ∧
      (e.name = "insert" → Anchored e) := by
  constructor
  · intro h
    exact ⟨fun hname => not_not.mp fun hid => h _ (.target hname hid),
      fun hname => not_not.mp fun hanchor => h _ (.anchor hname hanchor)⟩
  · rintro ⟨htarget, hanchor⟩ fault hlacks
    cases hlacks with
    | target hname hid => exact hid (htarget hname)
    | anchor hname hnone => exact hnone (hanchor hname)

/-- The attribute `e` is sound if it has a name, which may be empty. -/
theorem sound_setting_iff {node e : Element} :
    (setting node e).Sound ↔ ∃ name, e.attribute? "name" = some name := by
  rw [← Option.isSome_iff_exists, ← Option.ne_none_iff_isSome]
  constructor
  · exact fun h hnone => h _ (.name hnone)
  · intro h fault hlacks
    cases hlacks with
    | name hnone => exact h hnone

/-- The redirect `e` is sound if it has an address. -/
theorem sound_redirect_iff {e : Element} : (redirect e).Sound ↔ e.Names "url" := by
  constructor
  · exact fun h => not_not.mp fun hnone => h _ (.address hnone)
  · intro h fault hlacks
    cases hlacks with
    | address hnone => exact hnone h

end Part

/-- The parts of a child `e` of a `changes` container `c` are parts of the response. -/
theorem mem_partsOf_of_change {root c e : Element} {p : Part} (hc : c ∈ root.elements)
    (hname : c.name = "changes") (he : e ∈ c.elements) (hp : p ∈ partsOfChange e) :
    p ∈ partsOf root := by
  refine List.mem_flatMap.mpr ⟨c, hc, ?_⟩
  simp only [partsOfChild, hname]
  exact List.mem_flatMap.mpr ⟨e, he, hp⟩

/-- A redirect `e` is a part of the response `root`. -/
theorem mem_partsOf_of_redirect {root e : Element} (he : e ∈ root.elements)
    (hname : e.name = "redirect") : .redirect e ∈ partsOf root := by
  refine List.mem_flatMap.mpr ⟨e, he, ?_⟩
  simp only [partsOfChild, hname]
  exact List.mem_singleton_self _

/-- In a `Sensible` response, the parts of a child of a `changes` container are sound. -/
theorem Sensible.sound_of_change {root c e : Element} {p : Part} (h : Sensible root)
    (hc : c ∈ root.elements) (hname : c.name = "changes") (he : e ∈ c.elements)
    (hp : p ∈ partsOfChange e) : p.Sound := by
  rcases List.mem_cons.mp hp with rfl | hp
  · exact Part.sound_change_iff.mpr ⟨h.targets c hc hname e he, h.anchors c hc hname e he⟩
  · split at hp
    · rename_i hattributes
      obtain ⟨a, ha, rfl⟩ := List.mem_map.mp hp
      obtain ⟨ha, hattribute⟩ := List.mem_filter.mp ha
      exact Part.sound_setting_iff.mpr
        (h.attributes c hc hname e he hattributes a ha (of_decide_eq_true hattribute))
    · cases hp

/-- In a `Sensible` response, all parts are sound. -/
theorem Sensible.sound {root : Element} {p : Part} (h : Sensible root) (hp : p ∈ partsOf root) :
    p.Sound := by
  obtain ⟨c, hc, hp⟩ := List.mem_flatMap.mp hp
  unfold partsOfChild at hp
  split at hp
  · rename_i hname
    obtain ⟨e, he, hp⟩ := List.mem_flatMap.mp hp
    exact h.sound_of_change hc hname he hp
  · rename_i hname
    obtain rfl := List.mem_singleton.mp hp
    exact Part.sound_redirect_iff.mpr (h.addresses c hc hname)
  -- a child that is left for extensions has no parts
  · cases hp

/-- The response `root` makes sense if all its parts are sound. -/
theorem sensible_iff {root : Element} : Sensible root ↔ ∀ p ∈ partsOf root, p.Sound := by
  refine ⟨fun h p hp => h.sound hp, fun h => ?_⟩
  have hself : ∀ c ∈ root.elements, c.name = "changes" → ∀ e ∈ c.elements,
      (Part.change e).Sound :=
    fun c hc hname e he => h _ (mem_partsOf_of_change hc hname he List.mem_cons_self)
  refine {
    targets := fun c hc hname e he => (Part.sound_change_iff.mp (hself c hc hname e he)).1
    anchors := fun c hc hname e he => (Part.sound_change_iff.mp (hself c hc hname e he)).2
    attributes := ?_
    addresses := fun e he hname =>
      Part.sound_redirect_iff.mp (h _ (mem_partsOf_of_redirect he hname)) }
  intro c hc hname e he hattributes a ha hattribute
  refine Part.sound_setting_iff.mp (h (.setting e a) (mem_partsOf_of_change hc hname he ?_))
  refine List.mem_cons_of_mem _ ?_
  rw [if_pos hattributes]
  exact List.mem_map_of_mem (List.mem_filter.mpr ⟨ha, decide_eq_true hattribute⟩)

/-! ### Reading part by part -/

/-- The reading of some `parts` succeeds if all of them are sound, and ends in the fault of the
    first one that is not. -/
inductive Reports {α : Type} (parts : List Part) : Except OperationFault α → Prop
  /-- All are sound. -/
  | sound {a : α} (h : ∀ p ∈ parts, p.Sound) : Reports parts (.ok a)
  /-- One part `p` is not sound, and all parts before it are. -/
  | faulty {before after : List Part} {p : Part} {fault : OperationFault}
    (hparts : parts = before ++ p :: after) (hbefore : ∀ q ∈ before, q.Sound)
    (hlacks : p.Lacks fault) : Reports parts (.error fault)

namespace Reports

variable {α β : Type} {parts parts' : List Part}

/-- The only part `p` is not sound. -/
theorem only {p : Part} {fault : OperationFault} (h : p.Lacks fault) :
    Reports [p] (.error fault : Except OperationFault α) :=
  have hparts : [p] = [] ++ p :: [] := rfl
  .faulty hparts nofun h

/-- What `f` does with the result of a reading does not count. -/
protected theorem map {x : Except OperationFault α} (h : Reports parts x) (f : α → β) :
    Reports parts (x.map f) := by
  cases h with
  | sound h => exact .sound h
  | faulty hparts hbefore hlacks => exact .faulty hparts hbefore hlacks

/-- **One after the other.** The `parts` that are read first come first, and behind a fault among
    them nothing is read. -/
protected theorem bind {x : Except OperationFault α} {f : α → Except OperationFault β}
    (hx : Reports parts x) (hf : ∀ a, x = .ok a → Reports parts' (f a)) :
    Reports (parts ++ parts') (x >>= f) := by
  cases hx with
  | @sound a hparts =>
    show Reports _ (f a)
    have hnext := hf a rfl
    generalize f a = y at hnext
    cases hnext with
    | sound hparts' =>
      exact .sound fun p hp => (List.mem_append.mp hp).elim (hparts p) (hparts' p)
    | @faulty before after p fault hsplit hbefore hlacks =>
      have hall : parts ++ parts' = (parts ++ before) ++ p :: after := by
        rw [hsplit, List.append_assoc]
      exact .faulty hall (fun q hq => (List.mem_append.mp hq).elim (hparts q) (hbefore q)) hlacks
  | @faulty before after p fault hsplit hbefore hlacks =>
    have hall : parts ++ parts' = before ++ p :: (after ++ parts') := by
      rw [hsplit, List.append_assoc, List.cons_append]
    exact .faulty hall hbefore hlacks

/-- Several elements `xs` are read one after the other, and so are their parts. -/
protected theorem mapM {f : α → Except OperationFault β} {partsOf : α → List Part} {xs : List α}
    (h : ∀ x ∈ xs, Reports (partsOf x) (f x)) : Reports (xs.flatMap partsOf) (xs.mapM f) := by
  induction xs with
  | nil => exact .sound nofun
  | cons x xs ih =>
    obtain ⟨hx, hxs⟩ := List.forall_mem_cons.mp h
    rw [List.mapM_cons, List.flatMap_cons]
    refine hx.bind fun y _ => ?_
    rw [bind_pure_comp]
    exact (ih hxs).map (y :: ·)

end Reports

/-- Asking for the id of a change `e` that needs one tells whether it has one. -/
theorem reports_requiredId {e : Element} (hname : e.name ∈ ["update", "delete", "attributes"]) :
    Reports [.change e] (requiredId e) := by
  unfold requiredId
  cases hid : e.nonEmpty? "id" with
  | some id =>
    refine .sound (List.forall_mem_singleton.mpr (Part.sound_change_iff.mpr ⟨fun _ => ?_, ?_⟩))
    · exact ⟨id, Element.nonEmpty?_eq_some_iff.mp hid⟩
    · rintro hinsert
      rw [hinsert] at hname
      simp at hname
  | none =>
    exact .only (.target hname (Element.nonEmpty?_eq_none_iff.mp hid))

/-- Reading the insert `e` tells whether it has an anchor. -/
theorem reports_insertOperation {e : Element} (hname : e.name = "insert") :
    Reports [.change e] (insertOperation e) := by
  unfold insertOperation
  cases hanchor : anchorOf e with
  | some anchor =>
    refine .sound (List.forall_mem_singleton.mpr (Part.sound_change_iff.mpr ⟨?_, fun _ => ?_⟩))
    · rw [hname]
      exact fun hmem => absurd hmem (by simp)
    · exact not_not.mp fun hnone => by simp [anchorOf_eq_none_iff.mpr hnone] at hanchor
  | none =>
    exact .only (.anchor hname (anchorOf_eq_none_iff.mp hanchor))

/-- Reading an attribute tells whether it has a name. The id of its `node` is only there to be
    told. -/
theorem reports_attributeOperation (node e : Element) :
    Reports [.setting node e] (attributeOperation ((node.attribute? "id").getD "") e) := by
  unfold attributeOperation
  cases hname : e.attribute? "name" with
  | some name =>
    exact .sound (List.forall_mem_singleton.mpr (Part.sound_setting_iff.mpr ⟨name, hname⟩))
  | none => exact .only (.name hname)

/-- Reading a node `e` that sets attributes tells first whether the node has an id, and then which
    of the attributes has no name. -/
theorem reports_settings {e : Element} (hname : e.name = "attributes") :
    Reports (partsOfChange e) (changeOperations e) := by
  have hid : Reports [.change e] (requiredId e) := reports_requiredId (by simp [hname])
  have hrest : ∀ target, requiredId e = .ok target →
      Reports ((e.elements.filter (·.name = "attribute")).map (.setting e))
        ((e.elements.filter (·.name = "attribute")).mapM (attributeOperation target)) := by
    intro target htarget
    obtain rfl : (e.attribute? "id").getD "" = target := by
      -- the id that was asked for is the one that is told with a fault
      unfold requiredId at htarget
      split at htarget
      · rename_i id hid
        obtain rfl := Except.ok.inj htarget
        rw [(Element.nonEmpty?_eq_some_iff.mp hid).1, Option.getD_some]
      · cases htarget
    have heach : Reports ((e.elements.filter (·.name = "attribute")).flatMap ([.setting e ·]))
        ((e.elements.filter (·.name = "attribute")).mapM
          (attributeOperation ((e.attribute? "id").getD ""))) :=
      Reports.mapM fun a _ => reports_attributeOperation e a
    rwa [← List.map_eq_flatMap] at heach
  have hoperations : changeOperations e = requiredId e >>= fun target =>
      (e.elements.filter (·.name = "attribute")).mapM (attributeOperation target) := by
    simp only [changeOperations, hname]
    cases requiredId e <;> rfl
  rw [hoperations, partsOfChange, if_pos hname]
  exact hid.bind hrest

/-- Reading a child of a `changes` container tells the first fault of its parts, whatever its
    name. -/
theorem reports_changeOperations (e : Element) :
    Reports (partsOfChange e) (changeOperations e) := by
  by_cases hattributes : e.name = "attributes"
  · exact reports_settings hattributes
  have hparts : partsOfChange e = [.change e] := by rw [partsOfChange, if_neg hattributes]
  rw [hparts]
  unfold changeOperations
  split
  · rename_i hname
    exact (reports_requiredId (by simp [hname])).map _
  · rename_i hname
    exact (reports_insertOperation hname).map _
  · rename_i hname
    exact (reports_requiredId (by simp [hname])).map _
  · rename_i hname
    exact absurd hname hattributes
  · rename_i hname
    refine .sound (List.forall_mem_singleton.mpr (Part.sound_change_iff.mpr ?_))
    simp [hname]
  · rename_i hupdate hinsert hdelete _ _
    refine .sound (List.forall_mem_singleton.mpr (Part.sound_change_iff.mpr ⟨?_, ?_⟩))
    · intro hname
      simp only [List.mem_cons, List.not_mem_nil, or_false] at hname
      exact (hname.elim hupdate fun hname => hname.elim hdelete hattributes).elim
    · exact fun hname => absurd hname hinsert

/-- Reading the child `e` of the root tells the first fault of its parts. -/
theorem reports_operationsOf (e : Element) : Reports (partsOfChild e) (operationsOf e) := by
  unfold partsOfChild operationsOf
  split
  · rename_i hname
    simp only [hname]
    exact (Reports.mapM fun e _ => reports_changeOperations e).map _
  · rename_i hname
    simp only [hname]
    cases hurl : e.nonEmpty? "url" with
    | some url =>
      refine .sound (List.forall_mem_singleton.mpr (Part.sound_redirect_iff.mpr ?_))
      exact ⟨url, Element.nonEmpty?_eq_some_iff.mp hurl⟩
    | none =>
      exact .only (.address (Element.nonEmpty?_eq_none_iff.mp hurl))
  · rename_i hchanges hredirect
    split
    · rename_i hname
      exact absurd hname hchanges
    · exact .sound nofun
    · rename_i hname
      exact absurd hname hredirect
    · exact .sound nofun

/-! ### Payloads -/

/-- A text of blanks is no document, so a text `raw` that is read as one is not blank. -/
theorem isBlankText_of_parse {raw : String} {root : Element} (h : Element.parse raw = .ok root) :
    Text.isBlankText raw = false := by
  rw [Bool.eq_false_iff]
  intro hblank
  have hall : ∀ c ∈ raw.toList, Text.isBlank c = true := List.all_eq_true.mp hblank
  have hmark : ∀ c ∈ raw.toList, c ≠ '\ufeff' ∧ c ≠ '<' := by
    intro c hc
    constructor <;>
    · rintro rfl
      exact absurd (hall _ hc) (by decide)
  have hscan : Xml.scan raw.toList = Xml.scanFrom (.text []) 0 0 (raw.toList ++ []) := by
    rw [List.append_nil]
    exact Xml.scan_unmarked fun rest hfront =>
      (hmark '\ufeff' (hfront ▸ List.mem_cons_self)).1 rfl
  -- without a tag the scanner gives out one text, and nothing else
  obtain ⟨start, pos, htext⟩ :=
    Xml.scanFrom_text (fun hmem => (hmark '<' hmem).2 rfl) [] 0 0 []
  rw [Element.parse, hscan, htext, Xml.scanFrom, Xml.ending] at h
  -- outside the root there is at most this text, and no root follows
  split at h
  · cases h
  · simp only [Xml.Reading.run, Xml.Reading.step, Xml.Reading.addText] at h
    split at h
    · cases h
    · rename_i hstep
      split at hstep
      · obtain rfl := Except.ok.inj hstep
        cases h
      · cases hstep

/-- What the children of the root of `raw` ask for makes up the change set, unless a second report
    among it is dropped on the way. -/
theorem ChangeSet.ofDocument_of_mapM {raw : String} {root : Element} {ops : List Operation}
    (hread : Element.parse raw = .ok root) (hroot : root.name = "partial-response")
    (hall : (root.elements.mapM operationsOf).map List.flatten = .ok ops)
    (hkept : (ChangeSet.ofList ops).operations = ops) :
    ChangeSet.ofDocument raw =
      .ok { responseId := root.attribute? "id", operations := ops } := by
  cases hlists : root.elements.mapM operationsOf with
  | error fault =>
    rw [hlists] at hall
    cases hall
  | ok lists =>
    rw [hlists] at hall
    obtain rfl : lists.flatten = ops := Except.ok.inj hall
    simp only [ChangeSet.ofDocument, hread, ChangeSet.ofElement, hroot, ne_eq, not_true_eq_false,
      if_false, hlists, hkept]

/-- What the first strategy reads as `changes` is the result, whatever strategies there are behind
    it. -/
theorem parse_of_ofDocument {raw : String} {changes : ChangeSet}
    (h : ChangeSet.ofDocument raw = .ok changes) (reserved : ReservedIds)
    (others : List Strategy) :
    ({ reserved, strategies := .structured :: others } : Parser).parse raw =
      .ok ⟨changes, Strategy.structured.name⟩ := by
  have hblank : Text.isBlankText raw = false := by
    cases hread : Element.parse raw with
    | error fault =>
      rw [ChangeSet.ofDocument, hread] at h
      cases h
    | ok root => exact isBlankText_of_parse hread
  simp only [Parser.parse, hblank, Parser.tryAll, Strategy.structured, h]
  rfl

/-- A document that makes sense is read as changes by the first strategy; any other one ends in the
    fault of its first part `p` that lacks something. -/
theorem ofDocument_of_parse {raw : String} {root : Element} (hread : Element.parse raw = .ok root)
    (hroot : root.name = "partial-response") :
    (Sensible root ∧ ∃ changes, ChangeSet.ofDocument raw = .ok changes) ∨
      ∃ before p after fault, partsOf root = before ++ p :: after ∧ (∀ q ∈ before, q.Sound) ∧
        p.Lacks fault ∧ ChangeSet.ofDocument raw = .error (.operation fault) := by
  have hreports : Reports (partsOf root) (root.elements.mapM operationsOf) :=
    Reports.mapM fun e _ => reports_operationsOf e
  simp only [ChangeSet.ofDocument, hread, ChangeSet.ofElement, hroot, ne_eq, not_true_eq_false,
    if_false]
  generalize root.elements.mapM operationsOf = result at hreports
  cases hreports with
  | sound h => exact .inl ⟨sensible_iff.mpr h, _, rfl⟩
  | faulty hparts hbefore hlacks => exact .inr ⟨_, _, _, _, hparts, hbefore, hlacks, rfl⟩

/-- A `fault` of an operation is told as an error of the structure, after which no other strategy is
    asked. -/
theorem OperationFault.isStructural_toError (fault : OperationFault) :
    fault.toError.isStructural = true := by
  cases fault <;> rfl

/-- A `fault` of the document is told as the one attempt that was made, whatever strategies there
    are behind the first one. -/
theorem parse_of_operationFault {raw : String} {root : Element} {fault : OperationFault}
    (hread : Element.parse raw = .ok root)
    (hfault : ChangeSet.ofDocument raw = .error (.operation fault)) (reserved : ReservedIds)
    (others : List Strategy) :
    ({ reserved, strategies := .structured :: others } : Parser).parse raw = .error {
      description := fault.toError.message
      attempts := [(Strategy.structured.name, fault.toError)] } := by
  simp only [Parser.parse, isBlankText_of_parse hread, Parser.tryAll, Strategy.structured, hfault,
    Except.mapError, PayloadFault.toError, fault.isStructural_toError]
  rfl

/-- A response that `parse` rejects does not reach the document, whatever its status. -/
theorem page_process_of_parse_error {reserved : ReservedIds} {r : Response} {failure : ParseFailure}
    (hparse : ({ reserved } : Parser).parse r.body = .error failure) {σ : Type} (d : Document σ)
    (listeners : Listeners) (ctx : ResponseContext) (page : σ) :
    (Processor.process { parser := { reserved }, reserved } d.noted listeners ctx r
      (page, [])).page = (page, []) := by
  by_cases hstatus : 200 ≤ r.status ∧ r.status ≤ 299
  · rw [Processor.process_of_judges (.unreadable hstatus hparse)]
    rfl
  · rw [Processor.process_of_judges (.refused hstatus)]
    rfl

/-- What becomes of a payload `raw` that was read as the document with the given `root`. -/
structure Screened (reserved : ReservedIds) (raw : String) (root : Element) : Prop where
  /-- It is accepted exactly if it makes sense. -/
  accepted_iff : (∃ parsed, ({ reserved } : Parser).parse raw = .ok parsed) ↔ Sensible root
  /-- Otherwise the first part that lacks something is told, as the one attempt that was made. -/
  rejected : ¬ Sensible root → ∃ before p after fault,
    partsOf root = before ++ p :: after ∧ (∀ q ∈ before, q.Sound) ∧ p.Lacks fault ∧
      fault.toError.isStructural = true ∧ ({ reserved } : Parser).parse raw = .error {
        description := fault.toError.message
        attempts := [(Strategy.structured.name, fault.toError)] }
  /-- No strategy behind the first one is asked: with any others the result is the same. -/
  alone : ∀ others : List Strategy,
    ({ reserved, strategies := .structured :: others } : Parser).parse raw =
      ({ reserved } : Parser).parse raw
  /-- A response that makes no sense does not reach the document. -/
  inert : ¬ Sensible root → ∀ {σ : Type} (d : Document σ) (listeners : Listeners)
    (ctx : ResponseContext) (r : Response) (page : σ), r.body = raw →
      (Processor.process { parser := { reserved }, reserved } d.noted listeners ctx r
        (page, [])).page = (page, [])

/-- **A document makes sense or is no response:** the text `raw` of `root` is read exactly in the
    first case. -/
theorem screened_parse (reserved : ReservedIds) {raw : String} {root : Element}
    (hread : Element.parse raw = .ok root) (hroot : root.name = "partial-response") :
    Screened reserved raw root := by
  rcases ofDocument_of_parse hread hroot with
    ⟨hsensible, changes, hchanges⟩ | ⟨before, p, after, fault, hparts, hbefore, hlacks, hfault⟩
  · have hparse := parse_of_ofDocument hchanges reserved
    exact {
      accepted_iff := iff_of_true ⟨_, hparse _⟩ hsensible
      rejected := fun h => absurd hsensible h
      alone := fun others => (hparse others).trans (hparse _).symm
      inert := fun h => absurd hsensible h }
  · have hparse := parse_of_operationFault hread hfault reserved
    have hsenseless : ¬ Sensible root := fun h => h.sound (hparts ▸ by simp) fault hlacks
    have hstandard : ({ reserved } : Parser).parse raw = _ := hparse [Strategy.regions]
    refine {
      accepted_iff := iff_of_false ?_ hsenseless
      rejected := fun _ => ⟨before, p, after, fault, hparts, hbefore, hlacks,
        fault.isStructural_toError, hstandard⟩
      alone := fun others => (hparse others).trans hstandard.symm
      inert := ?_ }
    · rintro ⟨parsed, hparsed⟩
      rw [hstandard] at hparsed
      cases hparsed
    · rintro - σ d listeners ctx r page rfl
      exact page_process_of_parse_error hstandard d listeners ctx page

/-- An `insert` without an anchor is told, although the body could be exchanged and the redirect
    behind it lacks something as well. -/
theorem screened_lostAnchor :
    let update : Xml.Tag :=
      { name := "update".toList, attributes := [("id".toList, "javax.faces.ViewBody".toList)] }
    let insert : Xml.Tag := { name := "insert".toList, attributes := [("id".toList, "n".toList)] }
    let d : Xml.Document := {
      tag := { name := "partial-response".toList }
      content := .element {} { name := "changes".toList }
        (.element {} update (.text { chars := ['b'] })
          (.element {} insert (.text { chars := ['x'] }) (.text {})))
        (.single {} { name := "redirect".toList } (.text {})) }
    (Element.parse (String.ofList d.write) = .ok d.root ∧ d.root.name = "partial-response") ∧
      ¬ Sensible d.root ∧ Screened {} (String.ofList d.write) d.root := by
  intro update insert d
  have hread : Element.parse (String.ofList d.write) = .ok d.root := Xml.parse_write d
  refine ⟨⟨hread, rfl⟩, ?_, screened_parse {} hread rfl⟩
  have hinsert : ∃ c ∈ d.root.elements, c.name = "changes" ∧ ∃ e ∈ c.elements,
      e.name = "insert" ∧ anchorOf e = none :=
    ⟨_, List.mem_cons_self, rfl, _, List.mem_cons_of_mem _ List.mem_cons_self, rfl,
      by decide +kernel⟩
  obtain ⟨c, hc, hchanges, e, he, hname, hnone⟩ := hinsert
  exact fun h => anchorOf_eq_none_iff.mp hnone (h.anchors c hc hchanges e he hname)

end PagePatch
