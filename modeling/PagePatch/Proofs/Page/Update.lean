import PagePatch.Proofs.Html.First
import PagePatch.Proofs.Page.Removal
import PagePatch.Proofs.Patch.Absent
import PagePatch.Proofs.Patch.Root

namespace PagePatch

/-!
# Updates of elements

Markup that is the updated element takes its place, and other markup takes the place of what is in
it. Either way the id that was updated leads to the updated element, whatever else has the id.

* `Html.Sole`, `Html.soleId?_eq_some_iff` — markup that is one element with an id;
* `Page.updated` — the page after an update, and `Page.installed` — what it puts in the place of the
  element;
* `Page.apply_updateElement` — what comes of an update, its scripts included;
* `Page.Reaches`, `Page.reaches_apply` — where the updated id leads to.
-/

open Html

/-! ### Markup that is one element -/

namespace Html

/-- The trees `fragment` are one element `e` that has the id `id`, among nodes that do not count as
    content. -/
structure Sole (id : String) (before : List Node) (e : Element)
    (children after fragment : List Node) : Prop where
  /-- The element and the nodes around it. -/
  fragment_eq : fragment = before ++ .element e children :: after
  /-- The nodes around it are comments, blank texts and the like. -/
  around : ∀ n ∈ before ++ after, n.isContent = false
  /-- It has the id. -/
  id_eq : e.id? = some id

/-- The trees have `id` for their `soleId?` exactly if they are one element that has it. -/
theorem soleId?_eq_some_iff {fragment : List Node} {id : String} : soleId? fragment = some id ↔
    ∃ before e children after, Sole id before e children after fragment := by
  constructor
  · intro h
    unfold soleId? at h
    split at h
    · rename_i e children hfilter
      obtain ⟨before, after, rfl, hbefore, -, hafter⟩ := List.filter_eq_cons_iff.mp hfilter
      refine ⟨before, e, children, after, rfl, ?_, h⟩
      intro n hn
      rcases List.mem_append.mp hn with hn | hn
      · exact Bool.not_eq_true _ ▸ hbefore n hn
      · exact Bool.not_eq_true _ ▸ List.filter_eq_nil_iff.mp hafter n hn
    · cases h
  · rintro ⟨before, e, children, after, rfl, haround, hid⟩
    have hnone : ∀ ns, ns ⊆ before ++ after → ns.filter Node.isContent = [] := by
      intro ns hns
      exact List.filter_eq_nil_iff.mpr fun n hn => by simp [haround n (hns hn)]
    unfold soleId?
    rw [List.filter_append, List.filter_cons_of_pos rfl, hnone before (by simp),
      hnone after (by simp)]
    exact hid

/-- Nodes that do not count as content hold no elements, whatever `p` asks of these. -/
theorem lacks_of_isContent {p : Element → Bool} {nodes : List Node}
    (h : ∀ n ∈ nodes, n.isContent = false) : Lacks p nodes := by
  induction nodes with
  | nil => exact Lacks.nil
  | cons n rest ih =>
    rw [List.forall_mem_cons] at h
    refine Lacks.cons_iff.mpr ⟨?_, ih h.2⟩
    cases n with
    | element e children => cases h.1
    | text s | comment s | doctype name =>
      intro e he
      cases he

end Html

/-! ### The page after an update -/

namespace Page

/-- The page after an update of `target` with given trees. A tree that is one element with the
    updated id takes the place of the element; others take the place of what is in it. -/
def updated (p : Page) (target : String) (fragment : List Html.Node) : Page :=
  if Html.soleId? fragment = some target then (p.editElement target fun _ => fragment).2
  else (p.editElement target fun n => [n.withChildren fragment]).2

/-- The nodes that an update puts in the place of the element `n`: the trees of `fragment`, or the
    element with them in it. -/
def installed (target : String) (fragment : List Html.Node) (n : Html.Node) : List Html.Node :=
  if soleId? fragment = some target then fragment else [n.withChildren fragment]

variable {p : Page} {target : String} {fragment : List Html.Node}

theorem installed_of_sole {before after xs : List Html.Node} {x : Html.Element}
    (h : Sole target before x xs after fragment) (n : Html.Node) :
    installed target fragment n = fragment :=
  if_pos (soleId?_eq_some_iff.mpr ⟨before, x, xs, after, h⟩)

theorem installed_of_not_sole (h : soleId? fragment ≠ some target) (e : Html.Element)
    (children : List Html.Node) :
    installed target fragment (.element e children) = [.element e fragment] :=
  if_neg h

theorem updated_of_find? {a : Address} (ha : p.find? target = some a) (fragment : List Html.Node) :
    p.updated target fragment = p.editAt (installed target fragment) a := by
  unfold updated editElement
  rw [ha]
  by_cases hsole : soleId? fragment = some target
  · have hnew : installed target fragment = fun _ => fragment := funext fun _ => if_pos hsole
    rw [if_pos hsole, hnew]
  · have hnew : installed target fragment = fun n => [n.withChildren fragment] :=
      funext fun _ => if_neg hsole
    rw [if_neg hsole, hnew]

/-! ### What comes of an update -/

/-- The `scripts`, on a page whose code does nothing, are noted, and leave the trees and the index
    as they are. -/
theorem performAll_scripts (scripts : List Html.Script) (p : Page) : ∃ executed loaded,
    p.performAll (scripts.map Script.instruction) = { p with executed, loaded } := by
  induction scripts generalizing p with
  | nil => exact ⟨p.executed, p.loaded, rfl⟩
  | cons s rest ih =>
    cases s with
    | inline code => exact ih _
    | external address => exact ih _

theorem runScripts_eq (scripts : List Html.Script) (p : Page) :
    document.runScripts scripts p = (.ok (), p.performAll (scripts.map Script.instruction)) := by
  induction scripts generalizing p with
  | nil => rfl
  | cons s rest ih =>
    have hone : document.runScript s p = (.ok (), (p.perform s.instruction).2) := by
      cases s <;> rfl
    rw [Document.runScripts, Action.bind_of_ok hone]
    exact ih _

/-- An element `target` that is part of the page is updated, and then the scripts of the `markup`
    are run, in order. -/
theorem updateElement_eq (h : p.Synced) (hid : p.Has target) (markup : String) :
    document.updateElement target markup p =
      (.ok .done, (p.updated target (parseFragment markup)).performAll (scriptPlan markup)) := by
  obtain ⟨a, ha⟩ := find?_of_has h hid
  have hasks := asks_eq h target
  rw [decide_eq_true hid] at hasks
  have htold : ∀ {i : Instruction} {q : Page}, p.perform i = (.ok true, q) →
      (discard (document.tell i) >>= fun _ =>
        document.runScripts (scriptsOf (parseFragment markup)) >>= fun _ => pure Outcome.done) p =
        (.ok .done, q.performAll (scriptPlan markup)) := by
    intro i q hq
    have htell : document.tell i p = (.ok true, q) := hq
    rw [Action.discard_eq_bind, bind_assoc, Action.bind_of_ok htell, pure_bind,
      Action.bind_of_ok (runScripts_eq _ q)]
    rfl
  refine (Action.bind_of_ok hasks _).trans ?_
  by_cases hsole : soleId? (parseFragment markup) = some target
  · simp only [hsole, if_true]
    refine htold ?_
    rw [updated, if_pos hsole, perform, editElement, ha]
  · simp only [hsole, if_false]
    refine htold ?_
    rw [updated, if_neg hsole, perform, editElement, ha]

/-- **What comes of an update of an element.** `target` is no reserved id, and part of the page: the
    update is carried out, and then the scripts of its markup are run. -/
theorem apply_updateElement (h : p.Synced) {reserved : ReservedIds}
    (hclass : reserved.classify target = .element) (hid : p.Has target) (markup : String) :
    document.apply reserved (.ofList [.update target markup]) p =
      (.ok .done, (p.updated target (parseFragment markup)).performAll (scriptPlan markup)) := by
  have hone : document.applyOne reserved (.update target markup) =
      document.updateElement target markup := by
    rw [Document.applyOne, Document.applyUpdate, hclass]
  rw [apply_of_error?_eq_none _ _ rfl]
  show document.applyAll reserved [.update target markup] p = _
  rw [applyAll_cons, hone, Action.bind_of_ok (updateElement_eq h hid markup)]
  rfl

/-! ### Where the id leads to -/

/-- After an update the id leads to the updated element: on the page `q` that the update of `target`
    with the trees of `fragment` makes of the page `p`. -/
structure Reaches (p q : Page) (target : String) (fragment : List Html.Node) : Prop where
  /-- The id is still part of the page. -/
  contains : q.contains target = true
  /-- Markup that is one element with the id stands where the old element stood, with what is around
      the element in the markup, and the id leads to the new element. -/
  replaced : ∀ before x xs after, Sole target before x xs after fragment →
    ∃ a, p.find? target = some a ∧ q.nodes = Html.editAt (fun _ => fragment) a p.nodes ∧
      q.find? target = some (a.shift before.length) ∧ q.node? target = some (.element x xs)
  /-- With other markup the id leads to the old element, which has its name and its attributes, and
      the markup in it. -/
  filled : (¬ ∃ before x xs after, Sole target before x xs after fragment) →
    ∃ a e children, p.find? target = some a ∧ p.node? target = some (.element e children) ∧
      q.nodes = Html.editAt (fun _ => [.element e fragment]) a p.nodes ∧
      q.find? target = some a ∧ q.node? target = some (.element e fragment)

theorem Synced.updated (h : p.Synced) (target : String) (fragment : List Html.Node) :
    (p.updated target fragment).Synced := by
  unfold Page.updated
  split
  · exact h.editElement target _
  · exact h.editElement target _

/-- The `fragment` that is one element with the id stands in the place of the old element, and the
    id leads to the new one: what is in front of it holds no element. -/
theorem Synced.updated_of_sole (h : p.Synced) (hid : p.Has target)
    {before xs after : List Html.Node} {x : Html.Element}
    (hsole : Sole target before x xs after fragment) :
    ∃ a, p.find? target = some a ∧
      (p.updated target fragment).nodes = Html.editAt (fun _ => fragment) a p.nodes ∧
      (p.updated target fragment).find? target = some (a.shift before.length) ∧
      (p.updated target fragment).node? target = some (.element x xs) := by
  obtain ⟨hne, a, e, children, ha, hfirst, -⟩ := h.first_of_has hid
  have hnodes : (p.updated target fragment).nodes = Html.editAt (fun _ => fragment) a p.nodes := by
    rw [updated_of_find? ha]
    exact hfirst.editAt_congr (installed_of_sole hsole _)
  have hlacks : Lacks (·.id? == some target) before :=
    lacks_of_isContent fun n hn => hsole.around n (List.mem_append_left _ hn)
  have hnew : First (·.id? == some target) (a.shift before.length) (.element x xs)
      (p.updated target fragment).nodes := by
    rw [hnodes]
    exact hfirst.edit hsole.fragment_eq hlacks (beq_iff_eq.mpr hsole.id_eq)
  exact ⟨a, ha, hnodes, (h.updated target fragment).find?_of_first hne hnew⟩

/-- Other markup stands in the old element `e`, and the id still leads to it: it comes before what
    is in it, even if the markup has the id as well. -/
theorem Synced.updated_of_not_sole (h : p.Synced) (hid : p.Has target)
    (hsole : soleId? fragment ≠ some target) :
    ∃ a e children, p.find? target = some a ∧ p.node? target = some (.element e children) ∧
      (p.updated target fragment).nodes = Html.editAt (fun _ => [.element e fragment]) a p.nodes ∧
      (p.updated target fragment).find? target = some a ∧
      (p.updated target fragment).node? target = some (.element e fragment) := by
  obtain ⟨hne, a, e, children, ha, hfirst, he⟩ := h.first_of_has hid
  have hnodes : (p.updated target fragment).nodes =
      Html.editAt (fun _ => [.element e fragment]) a p.nodes := by
    rw [updated_of_find? ha]
    exact hfirst.editAt_congr (installed_of_not_sole hsole e children)
  have hnew : First (·.id? == some target) a (.element e fragment)
      (p.updated target fragment).nodes := by
    rw [hnodes]
    exact hfirst.edit_single rfl (beq_iff_eq.mpr he)
  exact ⟨a, e, children, ha, (h.find?_of_first hne hfirst).2, hnodes,
    (h.updated target fragment).find?_of_first hne hnew⟩

/-- Where the id `target` leads to on the page that the update leaves, before its scripts are
    run. -/
theorem Synced.reaches_updated (h : p.Synced) (hid : p.Has target) (fragment : List Html.Node) :
    Reaches p (p.updated target fragment) target fragment := by
  constructor
  case replaced => exact fun before x xs after hsole => h.updated_of_sole hid hsole
  case filled =>
    intro hnone
    exact h.updated_of_not_sole hid fun hsole => hnone (soleId?_eq_some_iff.mp hsole)
  case contains =>
    rw [Page.contains]
    by_cases hsole : soleId? fragment = some target
    · obtain ⟨before, x, xs, after, hsole⟩ := soleId?_eq_some_iff.mp hsole
      obtain ⟨a, -, -, hfind, -⟩ := h.updated_of_sole hid hsole
      rw [hfind]
      rfl
    · obtain ⟨a, e, children, -, -, -, hfind, -⟩ := h.updated_of_not_sole hid hsole
      rw [hfind]
      rfl

/-- **An updated element stays addressable.** On every page that a page of a text can become,
    whatever markup an update brings, `target` leads to the updated element: the new one if the
    markup is one element with the id, and the old one otherwise. -/
theorem reaches_apply (reserved : ReservedIds) (html : String) (is : List Instruction)
    {target : String} (hclass : reserved.classify target = .element)
    (hid : ((ofHtml html).performAll is).contains target = true) (markup : String) :
    ∃ q, document.apply reserved (.ofList [.update target markup])
          ((ofHtml html).performAll is) = (.ok .done, q) ∧
      Reaches ((ofHtml html).performAll is) q target (parseFragment markup) := by
  have h := (synced_ofHtml html).performAll is
  have hhas := (h.contains_iff target).mp hid
  refine ⟨_, apply_updateElement h hclass hhas markup, ?_⟩
  obtain ⟨executed, loaded, hran⟩ := performAll_scripts (scriptsOf (parseFragment markup))
    (((ofHtml html).performAll is).updated target (parseFragment markup))
  rw [scriptPlan, hran]
  -- the scripts have no part in what the id leads to
  obtain ⟨hcontains, hreplaced, hfilled⟩ := h.reaches_updated hhas (parseFragment markup)
  exact ⟨hcontains, hreplaced, hfilled⟩

/-- A page on which two elements have the id `t`, and an attribute of the first one was set. -/
def doubles : Page :=
  (ofHtml "<p id=t>1</p><p id=t>2</p>").performAll [.setAttribute "t" "class" "x"]

/-- An update of the first element `t` of `doubles`, with markup that has the updated id in its
    content too and a comment in front: the id leads to the new element, not to the one in it or to
    the second one. -/
theorem reaches_doubles :
    (({} : ReservedIds).classify "t" = .element ∧ doubles.contains "t" = true) ∧
      ∃ q, document.apply {} (.ofList [.update "t" "<!--c--><p id=t><b id=t></b></p> "]) doubles =
          (.ok .done, q) ∧
        Reaches doubles q "t" (parseFragment "<!--c--><p id=t><b id=t></b></p> ") ∧
        q.html = "<html><head></head><body><!--c--><p id=\"t\"><b id=\"t\"></b></p> " ++
          "<p id=\"t\">2</p></body></html>" ∧
        q.outerHtml? "t" = some "<p id=\"t\"><b id=\"t\"></b></p>" := by
  have hclass : ({} : ReservedIds).classify "t" = .element := by decide
  have hid : doubles.contains "t" = true := by decide +kernel
  obtain ⟨q, happly, hreaches⟩ := reaches_apply {} "<p id=t>1</p><p id=t>2</p>"
    [.setAttribute "t" "class" "x"] hclass hid "<!--c--><p id=t><b id=t></b></p> "
  have hq : q = (document.apply {} (.ofList [.update "t" "<!--c--><p id=t><b id=t></b></p> "])
      doubles).2 := by
    rw [← doubles] at happly
    rw [happly]
  refine ⟨⟨hclass, hid⟩, q, happly, hreaches, ?_, ?_⟩
  · rw [hq]
    decide +kernel
  · rw [hq]
    decide +kernel

end Page

end PagePatch
