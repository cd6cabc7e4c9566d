import PagePatch.Page.CommandHost
import PagePatch.Proofs.Html.Order
import PagePatch.Proofs.Page.Region

namespace PagePatch

/-!
# The index of ids

A page keeps the addresses of its ids beside its trees. They are found anew with every change to the
trees but one: the view-state token is written into its fields without that.

* `Attributes.get?_set_of_ne` — an attribute that is set leaves the others;
* `Page.Synced` — the addresses are those of the trees, and `Page.Synced.perform` — which every
  instruction leaves so;
* `Page.Has`, `Page.Indexed` — which ids a page has, and what an id leads to, read off the trees;
* `ScriptHost.course` — the pages that instructions lead through, with those that scripts see and
  make, and `ScriptHost.indexed_course` — the index of each of them.
-/

open Html

/-! ### Attributes -/

/-- Attributes are kept sorted by their names; `insertSorted` puts `a` in its place, or in the place
    of the one with its name. What is found under another `name` or `space` is what was found
    before. -/
theorem Html.Attributes.find?_insertSorted {a : Attribute} {space : AttributeSpace} {name : String}
    (ha : (a.space == space && a.name == name) = false) (as : List Attribute) :
    (insertSorted a as).find? (fun b => b.space == space && b.name == name) =
      as.find? fun b => b.space == space && b.name == name := by
  induction as with
  | nil => rw [insertSorted, List.find?_cons_of_neg (by rw [ha]; exact Bool.false_ne_true)]
  | cons b rest ih =>
    rw [insertSorted]
    split
    · -- it takes the place of one of its own name
      rename_i hsame
      obtain ⟨hspace, hname⟩ := Bool.and_eq_true_iff.mp hsame
      have hb : (b.space == space && b.name == name) = false := by
        rwa [← beq_iff_eq.mp hspace, ← beq_iff_eq.mp hname]
      simp only [List.find?_cons, ha, hb]
    · split
      · rw [List.find?_cons, ha]
      · rw [List.find?_cons, List.find?_cons, ih]

/-- Setting `name` leaves the value of every attribute with another name `name'`. -/
theorem Html.Attributes.get?_set_of_ne {name name' : String} (h : name ≠ name')
    (as : Attributes) (value : String) : (as.set name value).get? name' = as.get? name' := by
  have ha : ((AttributeSpace.plain == .plain) && (name == name')) = false := by
    rw [beq_eq_false_iff_ne.mpr h, Bool.and_false]
  exact congrArg (Option.map Attribute.value) (find?_insertSorted ha as.toList)

/-! ### Finding ids -/

/-- What `idIndex` lists first for `id` is the first element that has it. Nothing is listed for the
    empty text, even where an element has it for its id. -/
theorem lookup_idIndex (nodes : List Html.Node) (id : String) :
    (idIndex nodes).lookup id =
      if id = "" then none else findAddress? (·.id? == some id) nodes := by
  rw [idIndex, findAddress?]
  induction elementsAt nodes with
  | nil => exact (ite_self none).symm
  | cons x rest ih =>
    obtain ⟨a, e⟩ := x
    rw [List.filterMap_cons, List.find?_cons]
    by_cases hsame : e.id? = some id
    -- an element with the id: both sides find it, unless the id is the empty text
    · by_cases hempty : id = ""
      · simpa [hsame, hempty] using ih
      · simp [hsame, hempty]
    · -- an element with another id, or without one, is passed over on both sides
      cases hid : e.id? with
      | none => simpa [hid] using ih
      | some other =>
        have hother : other ≠ id := fun h => hsame (h ▸ hid)
        by_cases hempty : other = ""
        · simpa [hid, hempty, beq_eq_false_iff_ne.mpr (hempty ▸ hother)] using ih
        · simpa [hid, hempty, List.lookup_cons, beq_eq_false_iff_ne.mpr hother,
            beq_eq_false_iff_ne.mpr hother.symm] using ih

/-- A change `f` to elements that leaves their ids leaves the index: the elements stand where they
    stood. -/
theorem idIndex_mapElementsOf {f : Html.Element → Html.Element} (hf : ∀ e, (f e).id? = e.id?)
    (nodes : List Html.Node) : idIndex (Node.mapElementsOf f nodes) = idIndex nodes := by
  rw [idIndex, elementsAt, Node.elementsFrom_mapElementsOf, List.filterMap_map, idIndex, elementsAt]
  simp only [Function.comp_def, hf]

namespace Page

/-- The view-state token goes into the attribute `value`, so that the id of the field stays. -/
theorem id?_withToken (token : String) (e : Html.Element) : (withToken token e).id? = e.id? := by
  unfold withToken
  split
  · exact Attributes.get?_set_of_ne (by decide) e.attributes token
  · rfl

/-! ### Keeping the index -/

/-- The addresses that a page keeps in `ids` are those that a walk over its trees would find. -/
def Synced (p : Page) : Prop :=
  p.ids = idIndex p.nodes

variable {p : Page}

/-- A page put together of trees and their `idIndex` keeps the addresses of its ids. -/
theorem synced_of_nodes (nodes : List Html.Node) : Synced { nodes, ids := idIndex nodes } := rfl

theorem synced_ofHtml (html : String) : (ofHtml html).Synced := by
  unfold ofHtml
  exact synced_of_nodes _

/-- The ids are listed anew by `withNodes` when the trees are exchanged, whatever page they are
    exchanged on. -/
theorem synced_withNodes (p : Page) (nodes : List Html.Node) : (p.withNodes nodes).Synced := rfl

theorem Synced.editElement (h : p.Synced) (id : String) (f : Html.Node → List Html.Node) :
    (p.editElement id f).2.Synced := by
  unfold Page.editElement
  cases p.find? id with
  | none => exact h
  | some a => exact synced_withNodes p _

/-- A `region` that stands aside has no part in the index, so that nothing need be listed anew when
    it is renewed there. -/
theorem Synced.replaceRegion (h : p.Synced) (region : Region) (attributes : List (String × String))
    (content : List Html.Node) : (p.replaceRegion region attributes content).Synced := by
  unfold Page.replaceRegion
  simp only
  split
  · exact synced_withNodes p _
  · split
    · exact h
    · exact synced_withNodes p _

/-- Every instruction leaves a page with the addresses of its ids: it exchanges the trees by
    `withNodes`, or it leaves them, or it is the one that writes the token. -/
theorem Synced.perform (h : p.Synced) (i : Instruction) : (p.perform i).2.Synced := by
  cases i with
  | replaceElement id markup | replaceContent id markup | setAttribute id name value =>
    exact h.editElement id _
  | insertAdjacent anchor position markup =>
    cases position with
    | before => exact h.editElement anchor _
    | after => exact h.editElement anchor _
  | remove id =>
    show (p.removeElement id).2.Synced
    -- a removal differs from an edit in its answer alone
    rw [removeElement_eq]
    exact h.editElement id _
  | replaceRegion region attributes markup => exact h.replaceRegion region attributes _
  | runScript code | loadScript address | navigate url => exact h
  | updateViewState token =>
    -- the index is not made anew, but the ids stand where they stood
    exact h.trans (idIndex_mapElementsOf (id?_withToken token) p.nodes).symm

theorem Synced.performAll (h : p.Synced) (is : List Instruction) : (p.performAll is).Synced := by
  induction is generalizing p with
  | nil => exact h
  | cons i rest ih => exact ih (h.perform i)

/-! ### What an id leads to -/

/-- An element in the trees of the page `p` has `id` for its id. The empty text is never an id. -/
def Has (p : Page) (id : String) : Prop :=
  id ≠ "" ∧ ∃ e ∈ Node.elementsIn p.nodes, e.id? = some id

instance (p : Page) (id : String) : Decidable (p.Has id) :=
  inferInstanceAs (Decidable (id ≠ "" ∧ ∃ e ∈ Node.elementsIn p.nodes, e.id? = some id))

/-- The index of the page `p` is that of its trees: it leads to the elements that are there, and to
    the first one where several have an id. -/
structure Indexed (p : Page) : Prop where
  /-- An id is part of the page if it is not empty and an element in the trees has it. -/
  contains_iff : ∀ id, p.contains id = true ↔ p.Has id
  /-- An id that is not empty leads to the element that has it and stands before all others that
      have it in document order. -/
  find?_iff : ∀ id a, p.find? id = some a ↔ id ≠ "" ∧
    (∃ e children, nodeAt? a p.nodes = some (.element e children) ∧ e.id? = some id) ∧
      ∀ b e children, nodeAt? b p.nodes = some (.element e children) → e.id? = some id →
        a = b ∨ a.Before b
  /-- What is found of an id that is not empty is the first element in the trees that has it. -/
  node?_eq : ∀ id, id ≠ "" → p.node? id =
    ((Node.elementsOf p.nodes).find? fun x => x.1.id? == some id).map fun x => .element x.1 x.2
  /-- What is found of an id stands in the trees. -/
  attached : ∀ id n, p.node? id = some n →
    ∃ e children, n = .element e children ∧ (e, children) ∈ Node.elementsOf p.nodes ∧
      e.id? = some id

theorem Synced.find?_eq (h : p.Synced) (id : String) :
    p.find? id = if id = "" then none else findAddress? (·.id? == some id) p.nodes := by
  rw [Page.find?, h, lookup_idIndex]

theorem Synced.node?_eq (h : p.Synced) {id : String} (hid : id ≠ "") : p.node? id =
    ((Node.elementsOf p.nodes).find? fun x => x.1.id? == some id).map fun x =>
      .element x.1 x.2 := by
  rw [node?, h.find?_eq, if_neg hid]
  exact nodeAt?_findAddress? _ p.nodes

theorem Synced.contains_iff (h : p.Synced) (id : String) : p.contains id = true ↔ p.Has id := by
  rw [contains, Page.find?, h]
  exact isSome_lookup_idIndex p.nodes id

theorem Synced.indexed (h : p.Synced) : p.Indexed where
  contains_iff id := h.contains_iff id
  find?_iff id a := by
    rw [h.find?_eq]
    split
    · rename_i hempty
      simp [hempty]
    · rename_i hid
      -- `findAddress?` is the first in document order
      rw [findAddress?_eq_some_iff]
      simp only [beq_iff_eq, ne_eq, hid, not_false_eq_true, true_and]
  node?_eq id hid := h.node?_eq hid
  attached id n hn := by
    by_cases hid : id = ""
    · rw [node?, h.find?_eq, if_pos hid] at hn
      cases hn
    · rw [h.node?_eq hid] at hn
      obtain ⟨⟨e, children⟩, hfind, rfl⟩ := Option.map_eq_some_iff.mp hn
      have hkind := List.find?_some hfind
      exact ⟨e, children, rfl, List.mem_of_find?_eq_some hfind, beq_iff_eq.mp hkind⟩

/-! ### Pages on the way -/

/-- The pages that instructions lead through, from `p`, the one that they are given to, to the one
    that they leave. -/
def course (p : Page) : List Instruction → List Page
  | [] => [p]
  | i :: is => p :: (p.perform i).2.course is

theorem Synced.course (h : p.Synced) (is : List Instruction) : ∀ q ∈ p.course is, q.Synced := by
  induction is generalizing p with
  | nil =>
    intro q hq
    rw [List.mem_singleton.mp hq]
    exact h
  | cons i rest ih =>
    intro q hq
    rcases List.mem_cons.mp hq with rfl | hq
    · exact h
    · exact ih (h.perform i) q hq

end Page

namespace ScriptHost

variable {σ : Type} (host : ScriptHost σ)

/-- The pages while an instruction is carried out: for a `runScript`, the page that the host gets to
    see, and those that the instructions of the code lead through. Code that has other code run
    gives the instructions of both. -/
def meanwhile (s : Page × σ) : Instruction → List Page
  | .runScript code =>
    let page := (s.1.perform (.runScript code)).2
    page.course (host code page s.2).1.instructions
  | _ => []

/-- The pages that instructions lead through from `s` on, those that stand `meanwhile` included. -/
def course (s : Page × σ) : List Instruction → List Page
  | [] => [s.1]
  | i :: is => s.1 :: (host.meanwhile s i ++ course (host.document.perform i s).2 is)

theorem synced_meanwhile {s : Page × σ} (h : s.1.Synced) (i : Instruction) :
    ∀ q ∈ host.meanwhile s i, q.Synced := by
  cases i with
  | runScript code => exact (h.perform (.runScript code)).course _
  | _ => intro q hq; cases hq

theorem synced_perform {s : Page × σ} (h : s.1.Synced) (i : Instruction) :
    (host.document.perform i s).2.1.Synced := by
  have hpage := h.perform i
  cases i with
  | runScript code => exact hpage.performAll _
  | _ => exact hpage

theorem synced_course {s : Page × σ} (h : s.1.Synced) (is : List Instruction) :
    ∀ q ∈ host.course s is, q.Synced := by
  induction is generalizing s with
  | nil =>
    intro q hq
    rw [List.mem_singleton.mp hq]
    exact h
  | cons i rest ih =>
    intro q hq
    rcases List.mem_cons.mp hq with rfl | hq
    · exact h
    · rcases List.mem_append.mp hq with hq | hq
      · exact host.synced_meanwhile h i q hq
      · exact ih (host.synced_perform h i) q hq

/-- **The index of ids.** A page is made of any text `html` and told the instructions `is`, and
    `host` runs its scripts, which may give instructions themselves. At every moment on the way the
    ids lead to the elements of the trees. -/
theorem indexed_course (html : String) (state : σ) (is : List Instruction) :
    ∀ p ∈ host.course (Page.ofHtml html, state) is, p.Indexed := by
  intro p hp
  have hstart := Page.synced_ofHtml html
  exact (host.synced_course (s := (Page.ofHtml html, state)) hstart is p hp).indexed

/-- The page that the first instruction `i` of a script makes is one of those on the way, whatever
    the script is followed by. -/
theorem mem_course_of_script {s : Page × σ} {code : String} {i : Instruction}
    {rest : List Instruction}
    (h : (host code (s.1.perform (.runScript code)).2 s.2).1.instructions = i :: rest)
    (is : List Instruction) :
    ((s.1.perform (.runScript code)).2.perform i).2 ∈ host.course s (.runScript code :: is) := by
  refine List.mem_cons_of_mem _ (List.mem_append_left _ ?_)
  show _ ∈ ((s.1.perform (.runScript code)).2).course _
  rw [h]
  cases rest with
  | nil => exact List.mem_cons_of_mem _ List.mem_cons_self
  | cons i' rest => exact List.mem_cons_of_mem _ List.mem_cons_self

/-- A page with two elements that have the id `a`, of which only the second one holds anything. -/
def twins : Page :=
  Page.ofHtml "<p id=a></p><p id=a>x</p>"

/-- A script removes the first of the two elements `a` of `twins`. On the page that it leaves,
    before anything else happens, the id leads to the other one. -/
theorem indexed_removed :
    ((twins.perform (.runScript "@remove a")).2.perform (.remove "a")).2 ∈
        commandHost.course (twins, []) [.runScript "@remove a", .updateViewState "t"] ∧
      ((twins.perform (.runScript "@remove a")).2.perform (.remove "a")).2.Indexed ∧
      twins.innerHtml? "a" = some "" ∧
      ((twins.perform (.runScript "@remove a")).2.perform (.remove "a")).2.innerHtml? "a" =
        some "x" := by
  have hreaction : (commandHost "@remove a" (twins.perform (.runScript "@remove a")).2
      []).1.instructions = [.remove "a"] := by decide +kernel
  have hmem := mem_course_of_script (s := (twins, [])) commandHost hreaction [.updateViewState "t"]
  refine ⟨hmem, indexed_course commandHost "<p id=a></p><p id=a>x</p>" []
    [.runScript "@remove a", .updateViewState "t"] _ hmem, ?_, ?_⟩
  · decide +kernel
  · decide +kernel

end ScriptHost

end PagePatch
