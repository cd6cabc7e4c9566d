import PagePatch.Payload.Document
import PagePatch.Proofs.Page.Settings
import PagePatch.Proofs.Payload.Sense
import PagePatch.Proofs.Payload.Wire

namespace PagePatch

/-!
# Payloads that set attributes

One node of a payload sets several attributes of an element. It is read as a change for each of
them, in the order of the node.

* `gathered` — the changes of several nodes, in order;
* `OnlySets` — a document whose one change is a node that sets attributes;
* `parse_of_onlySets` — what is read of it;
* `sets_payload` — what comes of it on a page.
-/

open Html

/-! ### Changes in order -/

/-- The changes that the reader `f` makes of several nodes, in their order. -/
def gathered (f : Xml.Element → Except OperationFault (List Operation)) (es : List Xml.Element) :
    Except OperationFault (List Operation) :=
  (es.mapM f).map List.flatten

section

variable {f : Xml.Element → Except OperationFault (List Operation)}

/-- The changes of the first node `e` come first. -/
theorem gathered_cons (e : Xml.Element) (es : List Xml.Element) :
    gathered f (e :: es) = (f e).bind fun first => (gathered f es).map (first ++ ·) := by
  unfold gathered
  rw [List.mapM_cons]
  cases f e with
  | error fault => rfl
  | ok first => cases es.mapM f <;> rfl

/-- The changes of the nodes `es` in front come first. -/
theorem gathered_append (es es' : List Xml.Element) :
    gathered f (es ++ es') =
      (gathered f es).bind fun first => (gathered f es').map (first ++ ·) := by
  induction es with
  | nil =>
    show gathered f es' = (gathered f es').map ([] ++ ·)
    cases gathered f es' <;> rfl
  | cons e es ih =>
    rw [List.cons_append, gathered_cons, gathered_cons, ih]
    cases f e with
    | error fault => rfl
    | ok first =>
      cases gathered f es with
      | error fault => rfl
      | ok middle =>
        cases gathered f es' with
        | error fault => rfl
        | ok last => exact congrArg Except.ok (List.append_assoc _ _ _).symm

/-- Readers `f` and `g` that agree on the nodes make the same changes of them. -/
theorem gathered_congr {g : Xml.Element → Except OperationFault (List Operation)}
    {es : List Xml.Element} (h : ∀ e ∈ es, f e = g e) : gathered f es = gathered g es := by
  induction es with
  | nil => rfl
  | cons e es ih =>
    rw [List.forall_mem_cons] at h
    rw [gathered_cons, gathered_cons, h.1, ih h.2]

/-- Nodes of which `f` makes no changes can be left out. -/
theorem gathered_filter {p : Xml.Element → Bool} {es : List Xml.Element}
    (h : ∀ e ∈ es, p e = false → f e = .ok []) : gathered f (es.filter p) = gathered f es := by
  induction es with
  | nil => rfl
  | cons e es ih =>
    rw [List.forall_mem_cons] at h
    cases he : p e with
    | true => rw [List.filter_cons_of_pos he, gathered_cons, gathered_cons, ih h.2]
    | false =>
      rw [List.filter_cons_of_neg (by simp [he]), gathered_cons, h.1 he, ih h.2]
      cases gathered f es <;> rfl

/-- The nodes that stand in several nodes `es` can be taken together. -/
theorem gathered_flatMap (es : List Xml.Element) :
    gathered f (es.flatMap Xml.Element.elements) =
      gathered (fun e => gathered f e.elements) es := by
  induction es with
  | nil => rfl
  | cons e es ih => rw [List.flatMap_cons, gathered_append, gathered_cons, ih]

end

/-! ### Documents with one change -/

/-- The names of the nodes that are changes, for `changeOperations`. All others are left for
    extensions. -/
def changeNames : List String := ["update", "insert", "delete", "attributes", "eval"]

/-- The nodes of the document `root` that are changes, in order, from all of its containers. -/
def changeNodes (root : Xml.Element) : List Xml.Element :=
  ((root.elements.filter (·.name = "changes")).flatMap Xml.Element.elements).filter fun e =>
    changeNames.contains e.name

/-- The names and values of the attributes that `node` sets, in order. A value that is missing is
    empty. -/
def settingsIn (node : Xml.Element) : List (String × String) :=
  (node.elements.filter (·.name = "attribute")).map fun e =>
    ((e.attribute? "name").getD "", (e.attribute? "value").getD "")

/-- A response whose only change is a `node` that sets attributes of the element with the id
    `target`. -/
structure OnlySets (root node : Xml.Element) (target : String) : Prop where
  /-- The root is that of a response. -/
  root_name : root.name = "partial-response"
  /-- The response reports no failure and does not leave the page. -/
  alone : ∀ e ∈ root.elements, e.name ≠ "error" ∧ e.name ≠ "redirect"
  /-- The node is the only change. -/
  changes_eq : changeNodes root = [node]
  /-- The node sets attributes. -/
  node_name : node.name = "attributes"
  /-- The node names the element. -/
  id_eq : node.nonEmpty? "id" = some target
  /-- Every attribute in it has a name. -/
  named : ∀ e ∈ node.elements, e.name = "attribute" → e.attribute? "name" ≠ none

variable {root node : Xml.Element} {target : String}

/-- A node `e` that is no change asks for nothing. -/
theorem changeOperations_of_not_mem {e : Xml.Element} (h : changeNames.contains e.name = false) :
    changeOperations e = .ok [] := by
  have hname : ∀ name ∈ changeNames, e.name ≠ name := by
    rintro _ hmem rfl
    rw [List.contains_iff_mem.mpr hmem] at h
    cases h
  simp only [changeNames, List.forall_mem_cons] at hname
  obtain ⟨hupdate, hinsert, hdelete, hattributes, heval, -⟩ := hname
  unfold changeOperations
  split <;> first | contradiction | rfl

/-- The `node` that sets attributes asks for a change for each of them. -/
theorem OnlySets.changeOperations (h : OnlySets root node target) :
    PagePatch.changeOperations node = .ok (settingsOf target (settingsIn node)) := by
  have hid : requiredId node = .ok target := by rw [requiredId, h.id_eq]
  have heach : ∀ e ∈ node.elements.filter (·.name = "attribute"),
      attributeOperation target e = .ok (.setAttribute target ((e.attribute? "name").getD "")
        ((e.attribute? "value").getD "")) := by
    intro e he
    obtain ⟨hmem, hname⟩ := List.mem_filter.mp he
    obtain ⟨name, hsome⟩ := Option.ne_none_iff_exists'.mp (h.named e hmem (of_decide_eq_true hname))
    rw [attributeOperation, hsome]
    rfl
  have hall := Wire.mapM_map (g := id) heach
  rw [List.map_id] at hall
  simp only [PagePatch.changeOperations, h.node_name, hid]
  rw [hall, settingsOf, settingsIn, List.map_map]
  rfl

/-- The document asks for what its one change `node` asks for: containers without changes and other
    nodes add nothing. -/
theorem OnlySets.gathered_eq (h : OnlySets root node target) :
    gathered operationsOf root.elements = .ok (settingsOf target (settingsIn node)) := by
  have hother : ∀ e ∈ root.elements, decide (e.name = "changes") = false →
      operationsOf e = .ok [] := by
    intro e he hname
    obtain ⟨herror, hredirect⟩ := h.alone e he
    unfold operationsOf
    split
    · rename_i hchanges
      exact absurd hchanges (of_decide_eq_false hname)
    · contradiction
    · contradiction
    · rfl
  have hchanges : ∀ e ∈ root.elements.filter (·.name = "changes"),
      operationsOf e = gathered PagePatch.changeOperations e.elements := by
    intro e he
    simp only [operationsOf, of_decide_eq_true (List.mem_filter.mp he).2]
    rfl
  -- nodes that are no changes are left out twice: among the sections, and within them
  calc gathered operationsOf root.elements
      = gathered operationsOf (root.elements.filter (·.name = "changes")) :=
        (gathered_filter hother).symm
    _ = gathered (fun e => gathered PagePatch.changeOperations e.elements)
          (root.elements.filter (·.name = "changes")) := gathered_congr hchanges
    _ = gathered PagePatch.changeOperations
          ((root.elements.filter (·.name = "changes")).flatMap Xml.Element.elements) :=
        (gathered_flatMap _).symm
    _ = gathered PagePatch.changeOperations (changeNodes root) :=
        (gathered_filter fun e _ he => changeOperations_of_not_mem he).symm
    _ = .ok (settingsOf target (settingsIn node)) := by
        rw [h.changes_eq, gathered_cons, h.changeOperations]
        exact congrArg Except.ok (List.append_nil _)

/-- **What is read.** The document `root` is read as the changes that its one `node` asks for, by
    the first strategy. -/
theorem parse_of_onlySets {raw : String} (hread : Xml.Element.parse raw = .ok root)
    (h : OnlySets root node target) (reserved : ReservedIds) :
    ({ reserved } : Parser).parse raw = .ok ⟨{
      responseId := root.attribute? "id"
      operations := settingsOf target (settingsIn node) }, "structured"⟩ := by
  have hnone : ∀ op ∈ settingsOf target (settingsIn node), op.errorReport? = none := by
    intro op hop
    obtain ⟨s, -, rfl⟩ := List.mem_map.mp hop
    rfl
  have hchanges : ChangeSet.ofDocument raw = .ok {
      responseId := root.attribute? "id"
      operations := settingsOf target (settingsIn node) } :=
    ChangeSet.ofDocument_of_mapM hread h.root_name h.gathered_eq
      (ChangeSet.operations_foldl_push _ {} hnone)
  exact parse_of_ofDocument hchanges reserved [Strategy.regions]

/-- **Settings from a payload.** The only change of a payload is a `node` that sets attributes of an
    element, and the element is part of the page. The payload is read as changes that keep to
    `Page.Sets` on this page. -/
theorem sets_payload {raw : String} (hread : Xml.Element.parse raw = .ok root)
    (h : OnlySets root node target) (reserved : ReservedIds) (html : String) (is : List Instruction)
    (hpage : ((Page.ofHtml html).performAll is).contains target = true) :
    ∃ changes, ({ reserved } : Parser).parse raw = .ok ⟨changes, "structured"⟩ ∧
      Page.Sets reserved ((Page.ofHtml html).performAll is) target (settingsIn node) changes := by
  have hsynced := (Page.synced_ofHtml html).performAll is
  refine ⟨_, parse_of_onlySets hread h reserved,
    hsynced.sets ((hsynced.contains_iff target).mp hpage) reserved ?_ rfl⟩
  refine List.findSome?_eq_none_iff.mpr fun op hop => ?_
  obtain ⟨s, -, rfl⟩ := List.mem_map.mp hop
  rfl

/-- A response that sets attributes of the paragraph `t`: `first`, and then `others`. -/
def paragraphSettings (first : Wire.Setting) (others : List Wire.Setting) : Wire.Response where
  sections := [({}, .changes [({}, .settings "t" first others {})] {})]

/-- The node that sets the attributes in the response `paragraphSettings`. -/
def paragraphNode (first : Wire.Setting) (others : List Wire.Setting) : Xml.Element :=
  (Wire.Change.settings "t" first others {}).child.toElement

/-- A class is set twice, in different case, and then the id, which comes last; so the element `t`
    is still found for each of them. -/
theorem sets_paragraph :
    let first : Wire.Setting := { name := "class", value := "a" }
    let others : List Wire.Setting :=
      [{ name := "CLASS", value := "b" }, { name := "id", value := "n" }]
    let r := paragraphSettings first others
    let node := paragraphNode first others
    let page := (Page.ofHtml "<p id=t title=x></p>").performAll [.setAttribute "t" "lang" "en"]
    (Xml.Element.parse r.text = .ok r.document.root ∧ OnlySets r.document.root node "t" ∧
        page.contains "t" = true) ∧
      Page.KeepsId "t" (settingsIn node) ∧
      ∃ changes, ({} : Parser).parse r.text = .ok ⟨changes, "structured"⟩ ∧
        Page.Sets {} page "t" (settingsIn node) changes ∧
        (Page.document.apply {} changes page).2.html = "<html><head></head><body>" ++
          "<p class=\"b\" id=\"n\" lang=\"en\" title=\"x\"></p></body></html>" := by
  intro first others r node page
  have hread : Xml.Element.parse r.text = .ok r.document.root := Xml.parse_write r.document
  have honly : OnlySets r.document.root node "t" := {
    root_name := by decide +kernel
    alone := by decide +kernel
    changes_eq := rfl
    node_name := by decide +kernel
    id_eq := by decide +kernel
    named := by decide +kernel }
  have hpage : page.contains "t" = true := by decide +kernel
  have hsettings : settingsIn node = [("class", "a"), ("CLASS", "b")] ++ [("id", "n")] := by
    decide +kernel
  obtain ⟨changes, hparse, hsets⟩ := sets_payload hread honly {} "<p id=t title=x></p>"
    [.setAttribute "t" "lang" "en"] hpage
  refine ⟨⟨hread, honly, hpage⟩, ?_, changes, hparse, hsets, ?_⟩
  · rw [hsettings]
    exact Page.keepsId_concat (by decide +kernel) _
  · -- the changes are those that the settings ask for
    cases hparse.symm.trans (parse_of_onlySets hread honly {})
    decide +kernel

/-- The `class` that is set behind a new id is passed over. -/
theorem class_lost :
    let first : Wire.Setting := { name := "id", value := "n" }
    let others : List Wire.Setting := [{ name := "class", value := "c" }]
    let r := paragraphSettings first others
    r.text = "<partial-response><changes><attributes id=\"t\">" ++
        "<attribute name=\"id\" value=\"n\"/><attribute name=\"class\" value=\"c\"/>" ++
        "</attributes></changes></partial-response>" ∧
      ∃ changes, ({} : Parser).parse r.text = .ok ⟨changes, "structured"⟩ ∧
        (Page.document.apply {} changes (Page.ofHtml "<p id=t></p>")).1 =
          .ok { applied := 1, skipped := [.elementNotFound "t"] } ∧
        (Page.document.apply {} changes (Page.ofHtml "<p id=t></p>")).2.html =
          "<html><head></head><body><p id=\"n\"></p></body></html>" := by
  intro first others r
  have honly : OnlySets r.document.root (paragraphNode first others) "t" := {
    root_name := by decide +kernel
    alone := by decide +kernel
    changes_eq := rfl
    node_name := by decide +kernel
    id_eq := by decide +kernel
    named := by decide +kernel }
  refine ⟨by decide +kernel, _, parse_of_onlySets (Xml.parse_write r.document) honly {}, ?_, ?_⟩
  · decide +kernel
  · decide +kernel

end PagePatch
