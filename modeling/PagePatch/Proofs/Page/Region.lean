import PagePatch.Page.Document
import PagePatch.Proofs.Html.Region

namespace PagePatch

/-!
# The regions of a page

The elements of the head and the body are found once, when the page is made. They are kept even
when an instruction takes them, or an element around them, out of the page; a region that is taken
out is still renewed, where nobody sees it.

* `Page.takenOut` — the trees that an instruction takes out of a page;
* `Page.Keeps` — a page that keeps its regions, in its trees or aside, and `Page.Keeps.perform` —
  which every instruction leaves it with;
* `Page.Keeps.performAll` — the regions that are still in the trees after instructions;
* `Page.renews_performAll` — what comes of the replacement of a region then.
-/

open Html

/-! ### Keeping regions -/

/-- The element of a region `r` that is among `nodes`, with the address at which it is found. -/
theorem regionNode?_of_mem {r : Region} {nodes : List Html.Node} (h : r ∈ Node.regionsOf nodes) :
    ∃ a e children, findAddress? (·.region == some r) nodes = some a ∧
      nodeAt? a nodes = some (.element e children) ∧ e.region = some r ∧
      regionNode? r nodes = some (.element e children) := by
  obtain ⟨e, he, her⟩ := Node.mem_regionsOf.mp h
  have hsome : (findAddress? (·.region == some r) nodes).isSome = true :=
    (isSome_findAddress? _ nodes).mpr ⟨e, he, beq_iff_eq.mpr her⟩
  obtain ⟨a, ha⟩ := Option.isSome_iff_exists.mp hsome
  obtain ⟨e, children, hnode, hregion⟩ := findAddress?_eq_some ha
  refine ⟨a, e, children, ha, hnode, beq_iff_eq.mp hregion, ?_⟩
  rw [regionNode?, ha]
  exact hnode

/-- A region `r` that is not among `nodes` has no element there. -/
theorem regionNode?_of_not_mem {r : Region} {nodes : List Html.Node}
    (h : r ∉ Node.regionsOf nodes) :
    findAddress? (·.region == some r) nodes = none ∧ regionNode? r nodes = none := by
  have hnone : findAddress? (·.region == some r) nodes = none := by
    rw [← Option.not_isSome_iff_eq_none, isSome_findAddress?]
    rintro ⟨e, he, hregion⟩
    exact h (Node.mem_regionsOf.mpr ⟨e, he, beq_iff_eq.mp hregion⟩)
  refine ⟨hnone, ?_⟩
  rw [regionNode?, hnone]
  rfl

namespace Page

/-- The page `p` keeps its regions: each stands in its trees or aside, none stands there twice, and
    what is in a region that stands in the trees can be seen. -/
structure Keeps (p : Page) : Prop where
  /-- No region stands in the trees twice. -/
  nodup : (Node.regionsOf p.nodes).Nodup
  /-- What is in a region can be seen. -/
  placed : ∀ r, Placed r p.nodes
  /-- A region that does not stand in the trees stands aside: one of the `detached` trees is its
      element. -/
  kept : ∀ r, r ∈ Node.regionsOf p.nodes ∨ ∃ n ∈ p.detached, n.region? = some r

/-- A page keeps its regions when its trees are exchanged for `nodes`: those that are lost by it are
    set aside. -/
theorem Keeps.withNodes {p : Page} (h : p.Keeps) {nodes : List Html.Node}
    (hnodup : (Node.regionsOf nodes).Nodup) (hplaced : ∀ r, Placed r nodes) :
    (p.withNodes nodes).Keeps where
  nodup := hnodup
  placed := hplaced
  kept := by
    intro r
    by_cases hr : r ∈ Node.regionsOf nodes
    · exact .inl hr
    refine .inr ?_
    rcases h.kept r with hr' | ⟨n, hn, hregion⟩
    -- it is lost now
    · obtain ⟨a, e, children, -, -, hregion, hnode⟩ := regionNode?_of_mem hr'
      refine ⟨.element e children, List.mem_append_right _ ?_, hregion⟩
      refine List.mem_filterMap.mpr ⟨r, by cases r <;> simp, ?_⟩
      rw [(regionNode?_of_not_mem hr).2, hnode]
      rfl
    -- it was lost before
    · exact ⟨n, List.mem_append_left _ hn, hregion⟩

/-- The page `p'` comes from the page `p`, which keeps its regions, by the loss of the trees
    `gone`. -/
structure Loses (p : Page) (gone : List Html.Node) (p' : Page) : Prop where
  /-- It keeps its regions, too. -/
  keeps : p'.Keeps
  /-- The regions that stand in its trees are those that did and are not lost. -/
  regions : ∀ r, r ∈ Node.regionsOf p'.nodes ↔
    r ∈ Node.regionsOf p.nodes ∧ r ∉ Node.regionsOf gone

/-- Without a change to its trees a page `p` loses nothing. -/
theorem Loses.nothing {p p' : Page} (h : p'.Keeps) (hnodes : p'.nodes = p.nodes) :
    Loses p [] p' where
  keeps := h
  regions := by simp [hnodes]

/-- An edit of a node `n` that leaves `edit n` in its place. It gives up what stands in the trees
    `gone n`, and brings in no region. -/
structure Cuts (edit gone : Html.Node → List Html.Node) : Prop where
  /-- The regions of the node stand in what is left of it and in what is given up. -/
  regions : ∀ n, Node.regionsOf [n] = Node.regionsOf (edit n) ++ Node.regionsOf (gone n)
  /-- What is in a region that is left can be seen. -/
  placed : ∀ r n, Placed r [n] → Placed r (edit n)

namespace Cuts

/-- The nodes `content` in the place of a node: the whole node is given up. -/
theorem replace {content : List Html.Node} (h : Node.regionsOf content = []) :
    Cuts (fun _ => content) (fun n => [n]) where
  regions n := by rw [h, List.nil_append]
  placed r n _ := Placed.of_not_mem (by rw [h]; nofun)

/-- The nodes `content` in front of a node: nothing is given up. -/
theorem insertBefore {content : List Html.Node} (h : Node.regionsOf content = []) :
    Cuts (fun n => content ++ [n]) (fun _ => []) where
  regions n := by simp [h]
  placed r n hn := Placed.append_iff.mpr ⟨Placed.of_not_mem (by rw [h]; nofun), hn⟩

/-- The nodes `content` behind a node: nothing is given up. -/
theorem insertAfter {content : List Html.Node} (h : Node.regionsOf content = []) :
    Cuts (fun n => n :: content) (fun _ => []) where
  regions n := by
    show _ = Node.regionsOf ([n] ++ content) ++ _
    rw [Node.regionsOf_append, h]
    simp
  placed r n hn := Placed.cons_iff.mpr ⟨hn, Placed.of_not_mem (by rw [h]; nofun)⟩

/-- A change `f` to an element that leaves its name and what it stands for. -/
theorem mapElement {f : Html.Element → Html.Element} (hf : ∀ e, (f e).Alike e) :
    Cuts (fun n => [n.mapElement f]) (fun _ => []) where
  regions n := by
    cases n with
    | element e children => simp [Node.mapElement, (hf e).region]
    | text s | comment s | doctype name => rfl
  placed r n hn := by
    cases n with
    | element e children => exact hn.renew (hf e) (.inr rfl)
    | text s | comment s | doctype name => exact hn

/-- Such a change together with other `content`: what stood in the node is given up. -/
theorem renew {f : Html.Element → Html.Element} (hf : ∀ e, (f e).Alike e)
    {content : List Html.Node} (h : Node.regionsOf content = []) {edit : Html.Node → Html.Node}
    (hedit : ∀ n, edit n = (n.withChildren content).mapElement f) :
    Cuts (fun n => [edit n]) Html.Node.children where
  regions n := by
    rw [hedit]
    cases n with
    | element e children =>
      simp [Node.withChildren, Node.mapElement, Node.children, (hf e).region, h]
    | text s | comment s | doctype name => rfl
  placed r n hn := by
    rw [hedit]
    cases n with
    | element e children =>
      have hnone : r ∉ Node.regionsOf content := by
        rw [h]
        exact List.not_mem_nil
      exact hn.renew (hf e) (.inl hnone)
    | text s | comment s | doctype name => exact hn

end Cuts

variable {p : Page}

/-- An edit at the address `a` of a node `n` loses what it gives up of `n`, and nothing else. -/
theorem Keeps.editAt (h : p.Keeps) {edit gone : Html.Node → List Html.Node} (hcuts : Cuts edit gone)
    {a : Address} {n : Html.Node} (hn : nodeAt? a p.nodes = some n) :
    Loses p (gone n) (p.editAt edit a) := by
  have hedit := edited_editAt edit hn
  obtain ⟨before, after, hold, hnew⟩ := hedit.regionsOf
  rw [hcuts.regions n] at hold
  have hnodup := h.nodup
  rw [hold] at hnodup
  have hsub : (Node.regionsOf (Html.editAt edit a p.nodes)).Sublist
      (before ++ (Node.regionsOf (edit n) ++ Node.regionsOf (gone n)) ++ after) := by
    rw [hnew]
    exact ((List.sublist_append_left _ _).append_left before).append_right after
  constructor
  · refine h.withNodes (hnodup.sublist hsub) fun r => ?_
    refine (h.placed r).edited hedit (hcuts.placed r n) ?_
    rw [hcuts.regions n]
    exact List.subset_append_left _ _
  · intro r
    show r ∈ Node.regionsOf (Html.editAt edit a p.nodes) ↔ _
    rw [hnew, hold]
    -- what is given up stands nowhere else
    simp only [List.nodup_append, List.mem_append] at hnodup ⊢
    grind

/-- A page keeps its regions when nothing but what is `detached` is changed, and the regions that
    stand aside still do. -/
theorem Keeps.aside {p' : Page} (h : p.Keeps) (hnodes : p'.nodes = p.nodes)
    (hdetached : ∀ r, (∃ n ∈ p.detached, n.region? = some r) →
      ∃ n ∈ p'.detached, n.region? = some r) : p'.Keeps where
  nodup := hnodes ▸ h.nodup
  placed := hnodes ▸ h.placed
  kept r := hnodes ▸ (h.kept r).imp_right (hdetached r)

/-- An `edit` at an address `a` that leads nowhere loses nothing. -/
theorem Keeps.editAt_none (h : p.Keeps) (edit : Html.Node → List Html.Node) {a : Address}
    (hn : nodeAt? a p.nodes = none) : Loses p [] (p.editAt edit a) := by
  have hnodes : (p.editAt edit a).nodes = p.nodes := editAt_of_none edit hn
  refine Loses.nothing (h.withNodes ?_ ?_) hnodes
  · rw [editAt_of_none edit hn]
    exact h.nodup
  · rw [editAt_of_none edit hn]
    exact h.placed

/-- An edit of the element that `id` leads to loses what it gives up of this element. Where the id
    leads to nothing, nothing is lost. -/
theorem Keeps.editElement (h : p.Keeps) {edit gone : Html.Node → List Html.Node}
    (hcuts : Cuts edit gone) (id : String) :
    Loses p ((p.node? id).toList.flatMap gone) (p.editElement id edit).2 := by
  unfold Page.editElement node?
  cases p.find? id with
  | none => exact Loses.nothing h rfl
  | some a =>
    rw [Option.bind_some]
    cases hn : nodeAt? a p.nodes with
    | none => exact h.editAt_none edit hn
    | some n =>
      rw [Option.toList_some, List.flatMap_singleton]
      exact h.editAt hcuts hn

/-- The trees that an instruction takes out of the page `p`: the element that is removed or
    replaced, or what stood in the one that gets other content. -/
def takenOut (p : Page) : Instruction → List Html.Node
  | .replaceElement id _ | .remove id => (p.node? id).toList
  | .replaceContent id _ => (p.node? id).toList.flatMap Html.Node.children
  | .replaceRegion region _ _ => (regionNode? region p.nodes).toList.flatMap Html.Node.children
  | .insertAdjacent .. | .setAttribute .. | .runScript _ | .loadScript _ | .navigate _
  | .updateViewState _ => []

/-- The replacement of a region that stands in the trees is an edit of its element, at the address
    `a`. -/
theorem replaceRegion_of_mem {r : Region} {attributes : List (String × String)}
    {content : List Html.Node} {a : Address}
    (ha : findAddress? (·.region == some r) p.nodes = some a) :
    p.replaceRegion r attributes content =
      p.editAt (fun n => [renewRegion attributes content n]) a := by
  simp only [replaceRegion, ha]

/-- The replacement of a region that stands aside changes a `detached` tree and counts as a change,
    and that is all. -/
theorem replaceRegion_of_not_mem (h : p.Keeps) {r : Region} (hr : r ∉ Node.regionsOf p.nodes)
    (attributes : List (String × String)) (content : List Html.Node) :
    ∃ a n, nodeAt? a p.detached = some n ∧ p.replaceRegion r attributes content =
      { p with
        detached := Html.editAt (fun n => [renewRegion attributes content n]) a p.detached
        mutations := p.mutations + 1 } := by
  have haside : r ∈ Node.regionsOf p.detached :=
    Node.mem_regionsOf_of_region? ((h.kept r).resolve_left hr)
  obtain ⟨a, e, children, ha, hn, -, -⟩ := regionNode?_of_mem haside
  refine ⟨a, _, hn, ?_⟩
  simp only [replaceRegion, (regionNode?_of_not_mem hr).1, ha]

/-- The element of a region with other `attributes` and other `content`. -/
theorem renewRegion_eq (attributes : List (String × String)) (content : List Html.Node)
    (n : Html.Node) :
    renewRegion attributes content n = (n.withChildren content).mapElement fun e =>
      { e with attributes := attributes.foldl (fun as (n, v) => as.set n v) {} } := by
  cases n <;> rfl

/-- The replacement of the region `r` loses what was in it, if it stands in the trees; otherwise
    nothing is lost. -/
theorem Keeps.replaceRegion (h : p.Keeps) (r : Region) (attributes : List (String × String))
    {content : List Html.Node} (hcontent : Node.regionsOf content = []) :
    Loses p ((regionNode? r p.nodes).toList.flatMap Html.Node.children)
      (p.replaceRegion r attributes content) := by
  by_cases hr : r ∈ Node.regionsOf p.nodes
  -- the element of the region is edited where it is found
  · obtain ⟨a, e, children, ha, hn, -, hnode⟩ := regionNode?_of_mem hr
    rw [replaceRegion_of_mem ha, hnode, Option.toList_some, List.flatMap_singleton]
    refine h.editAt (Cuts.renew ?_ hcontent (renewRegion_eq attributes content)) hn
    exact fun _ => ⟨rfl, rfl, rfl⟩
  · obtain ⟨a, n, hn, heq⟩ := replaceRegion_of_not_mem h hr attributes content
    rw [heq, (regionNode?_of_not_mem hr).2]
    refine Loses.nothing (h.aside rfl fun r' => ?_) rfl
    have hsame : (renewRegion attributes content n).region? = n.region? := by cases n <;> rfl
    have hedit := edited_editAt (fun n => [renewRegion attributes content n]) hn
    exact hedit.exists_region? hsame

/-- The element `e` with the view-state token has the name that it had and stands for what it stood
    for. -/
theorem alike_withToken (token : String) (e : Html.Element) : (withToken token e).Alike e := by
  unfold withToken
  split <;> exact ⟨rfl, rfl, rfl⟩

/-- The removal of the element `id` is an edit that leaves nothing, apart from the answer. -/
theorem removeElement_eq (p : Page) (id : String) :
    (p.removeElement id).2 = (p.editElement id fun _ => []).2 := by
  unfold removeElement editElement
  cases p.find? id <;> rfl

/-- An instruction leaves a page with its regions, apart from those that stand in what it takes out
    (`takenOut`). -/
theorem Keeps.perform (h : p.Keeps) (i : Instruction) :
    Loses p (p.takenOut i) (p.perform i).2 := by
  -- of an edit that gives nothing up, nothing is lost
  have hnothing : ∀ l : List Html.Node, l.flatMap (fun _ => ([] : List Html.Node)) = [] :=
    fun l => List.flatMap_eq_nil_iff.mpr fun _ _ => rfl
  cases i with
  | replaceElement id markup =>
    have hloses := h.editElement (Cuts.replace (regionsOf_parseFragment markup)) id
    rwa [List.flatMap_singleton'] at hloses
  | remove id =>
    have hloses := h.editElement (Cuts.replace Node.regionsOf_nil) id
    rwa [List.flatMap_singleton', ← removeElement_eq] at hloses
  | replaceContent id markup =>
    -- other content is a renewal that leaves the element itself
    have hrenew : ∀ n : Html.Node, n.withChildren (parseFragment markup) =
        (n.withChildren (parseFragment markup)).mapElement fun e => e := by
      intro n
      cases n <;> rfl
    exact h.editElement
      (Cuts.renew (fun _ => ⟨rfl, rfl, rfl⟩) (regionsOf_parseFragment markup) hrenew) id
  | insertAdjacent anchor position markup =>
    have hmarkup := regionsOf_parseFragment markup
    cases position with
    | before =>
      have hloses := h.editElement (Cuts.insertBefore hmarkup) anchor
      rwa [hnothing] at hloses
    | after =>
      have hloses := h.editElement (Cuts.insertAfter hmarkup) anchor
      rwa [hnothing] at hloses
  | setAttribute id name value =>
    have hloses := h.editElement (Cuts.mapElement fun e =>
      (⟨rfl, rfl, rfl⟩ : Html.Element.Alike
        { e with attributes := e.attributes.set (lowerName name) value } e)) id
    rwa [hnothing] at hloses
  | replaceRegion r attributes markup =>
    exact h.replaceRegion r attributes (regionsOf_parseFragment markup)
  | runScript code | loadScript address | navigate url =>
    exact Loses.nothing (h.aside rfl fun _ hr => hr) rfl
  | updateViewState token =>
    have hregions := Node.regionsOf_mapElementsOf (alike_withToken token) p.nodes
    constructor
    · exact {
        nodup := hregions ▸ h.nodup
        placed := fun r => (h.placed r).mapElementsOf (alike_withToken token)
        kept := fun r => hregions ▸ h.kept r }
    · intro r
      show r ∈ Node.regionsOf (Node.mapElementsOf (withToken token) p.nodes) ↔ _
      rw [hregions]
      simp [takenOut]

/-! ### After any instructions -/

/-- The instructions `is` leave a page with its regions, apart from those that stand in what one of
    them takes out of the page that those `before` it made. -/
theorem Keeps.performAll (h : p.Keeps) (is : List Instruction) :
    (p.performAll is).Keeps ∧ ∀ r, r ∈ Node.regionsOf (p.performAll is).nodes ↔
      r ∈ Node.regionsOf p.nodes ∧ ∀ before i after, is = before ++ i :: after →
        r ∉ Node.regionsOf ((p.performAll before).takenOut i) := by
  induction is generalizing p with
  | nil =>
    refine ⟨h, fun r => ⟨fun hr => ⟨hr, ?_⟩, fun hr => hr.1⟩⟩
    intro before i after hsplit
    simp at hsplit
  | cons i rest ih =>
    obtain ⟨hkeeps, hfirst⟩ := h.perform i
    obtain ⟨hall, hlater⟩ := ih hkeeps
    refine ⟨hall, fun r => ?_⟩
    show r ∈ Node.regionsOf ((p.perform i).2.performAll rest).nodes ↔ _
    rw [hlater r, hfirst r]
    -- an instruction that takes the region out is this one or one of the rest
    constructor
    · rintro ⟨⟨hr, hi⟩, hrest⟩
      refine ⟨hr, fun before i' after hsplit => ?_⟩
      cases before with
      | nil =>
        cases hsplit
        exact hi
      | cons i₀ before =>
        cases hsplit
        exact hrest before i' after rfl
    · rintro ⟨hr, hall⟩
      exact ⟨⟨hr, hall [] i rest rfl⟩, fun before i' after hsplit =>
        hall (i :: before) i' after (by rw [hsplit]; rfl)⟩

/-! ### The page of a text -/

/-- In `nodes` an element that stands for a region has the name of it, and no two elements stand for
    one region. -/
structure Marked (nodes : List Html.Node) : Prop where
  /-- The element has the name of the region. -/
  named : ∀ e ∈ Node.elementsIn nodes, ∀ r, e.region = some r → e.name = r.name
  /-- No two elements stand for one region. -/
  nodup : (Node.regionsOf nodes).Nodup

/-- The regions `r` and `r'` are known by their names. -/
theorem Html.Region.eq_of_name {r r' : Region} (h : r.name = r'.name) : r = r' := by
  cases r <;> cases r' <;> simp [Region.name] at h ⊢

/-- Marking the region `r` leaves trees marked, and `r` is the only region that can be new among
    them. -/
theorem Marked.markRegion {nodes : List Html.Node} (h : Marked nodes) {r : Region}
    (hr : r ∉ Node.regionsOf nodes) :
    Marked (markRegion nodes r) ∧
      Node.regionsOf (Page.markRegion nodes r) ⊆ r :: Node.regionsOf nodes := by
  unfold Page.markRegion
  cases ha : findAddress? (·.name == r.name) nodes with
  | none => exact ⟨h, List.subset_cons_self _ _⟩
  | some a =>
    obtain ⟨e, children, hn, hname⟩ := findAddress?_eq_some ha
    have hname : e.name = r.name := beq_iff_eq.mp hname
    have hedit := edited_editAt
      (fun n => [n.mapElement fun e => { e with region := some r }]) hn
    obtain ⟨before, after, hold, hnew⟩ := hedit.elementsIn
    have hmem : e ∈ Node.elementsIn nodes := by simp [hold]
    -- the element stood for no region: it has the name of this one
    have hfree : e.region = none := by
      cases hregion : e.region with
      | none => rfl
      | some r' =>
        have hsame := Html.Region.eq_of_name ((h.named e hmem r' hregion).symm.trans hname)
        exact absurd (Node.mem_regionsOf.mpr ⟨e, hmem, hsame ▸ hregion⟩) hr
    have hregions : (Node.regionsOf (Html.editAt
        (fun n => [n.mapElement fun e => { e with region := some r }]) a nodes)).Perm
          (r :: Node.regionsOf nodes) := by
      obtain ⟨first, last, hold, hnew⟩ := hedit.regionsOf
      rw [hold, hnew]
      simp [Node.mapElement, hfree, List.perm_middle]
    refine ⟨⟨?_, hregions.nodup_iff.mpr (List.nodup_cons.mpr ⟨hr, h.nodup⟩)⟩, hregions.subset⟩
    intro e' he' r' hregion
    rw [hnew] at he'
    simp only [Node.mapElement, Node.elementsIn_element, Node.elementsIn_nil, List.append_nil,
      List.mem_append, List.mem_cons] at he'
    rcases he' with (he' | rfl | he') | he'
    · exact h.named e' (by simp [hold, he']) r' hregion
    · cases hregion
      exact hname
    · exact h.named e' (by simp [hold, he']) r' hregion
    · exact h.named e' (by simp [hold, he']) r' hregion

/-- In the page of `html` an element that stands for a region has the name of it: the regions are
    marked by name, the head first and then the body. -/
theorem marked_ofHtml (html : String) : Marked (ofHtml html).nodes := by
  have hparsed : Marked (parsePage html) := by
    have hnone := regionsOf_parsePage html
    refine ⟨fun e he r hr => ?_, hnone ▸ List.nodup_nil⟩
    have hmem := Node.mem_regionsOf.mpr ⟨e, he, hr⟩
    rw [hnone] at hmem
    cases hmem
  -- no region stands in a parsed page, so the head is new in it, and the body behind the head
  obtain ⟨hhead, hsub⟩ := hparsed.markRegion (r := .head) (by rw [regionsOf_parsePage]; nofun)
  have hbody : Region.body ∉ Node.regionsOf (markRegion (parsePage html) .head) := by
    intro hbody
    rw [regionsOf_parsePage] at hsub
    cases List.mem_singleton.mp (hsub hbody)
  have hboth := (hhead.markRegion hbody).1
  unfold ofHtml
  exact hboth

/-- What is in the region `r` can be seen if the element `e` that stands for it stands in an element
    `root` which can have content and is itself one of the trees. -/
theorem Marked.placed {before after first last children : List Html.Node} {root e : Html.Element}
    {r : Region}
    (h : Marked (before ++ .element root (first ++ .element e children :: last) :: after))
    (hregion : e.region = some r) (hroot : root.isVoid = false) :
    Placed r (before ++ .element root (first ++ .element e children :: last) :: after) := by
  have hnodup := h.nodup
  simp only [Node.regionsOf_append, Node.regionsOf_element, hregion, Option.toList_some,
    List.nodup_append, List.mem_append, List.nodup_cons, List.cons_append, List.nil_append,
    List.mem_cons] at hnodup
  have hnamed : ∀ e' ∈ [root, e], e'.region = some r → e'.name = r.name := by
    intro e' he'
    refine h.named e' ?_ r
    simp only [List.mem_cons, List.not_mem_nil, or_false] at he'
    rcases he' with rfl | rfl <;> simp
  -- the region stands nowhere else
  have hbefore : r ∉ Node.regionsOf before := by grind
  have hafter : r ∉ Node.regionsOf after := by grind
  have hfirst : r ∉ Node.regionsOf first := by grind
  have hlast : r ∉ Node.regionsOf last := by grind
  have hchildren : r ∉ Node.regionsOf children := by grind
  rw [Placed.append_iff, Placed.cons_iff, Placed.element_iff, Placed.append_iff, Placed.cons_iff,
    Placed.element_iff, hroot]
  exact ⟨.of_not_mem hbefore,
    ⟨hnamed root (by simp), nofun, .of_not_mem hfirst,
      ⟨hnamed e (by simp), fun _ => hchildren, .of_not_mem hchildren⟩, .of_not_mem hlast⟩,
    .of_not_mem hafter⟩

/-- Whether the element of `r` stands in the `html` element of the page, as one of its children.
    This can be evaluated on a page. -/
def hasRegion (p : Page) (r : Region) : Bool :=
  match findAddress? (·.region == some r) p.nodes with
  | some [i, _] => (nodeAt? [i] p.nodes).any fun n => n.element?.any (·.name == "html")
  | _ => false

/-- What is in the region `r` of such a page can be seen, and the region stands in the trees. -/
theorem placed_of_hasRegion {r : Region} (hmarked : Marked p.nodes) (h : p.hasRegion r = true) :
    r ∈ Node.regionsOf p.nodes ∧ Placed r p.nodes := by
  unfold hasRegion at h
  split at h
  · rename_i i j ha
    obtain ⟨e, children, hn, hregion⟩ := findAddress?_eq_some ha
    have hregion : e.region = some r := beq_iff_eq.mp hregion
    rw [nodeAt?_cons_cons] at hn
    obtain ⟨x, hx, hj⟩ := Option.bind_eq_some_iff.mp hn
    obtain ⟨root, inner, rfl⟩ := Node.exists_element_of_nodeAt? hj
    have hhtml : root.name = "html" := by
      have hi : nodeAt? [i] p.nodes = some (.element root inner) := hx
      rw [hi] at h
      exact beq_iff_eq.mp h
    have hroot : root.isVoid = false := by
      rw [Element.isVoid, hhtml]
      cases root.space <;> decide
    have hinner : inner = _ := eq_take_cons_drop hj
    have hnodes := eq_take_cons_drop hx
    rw [hinner] at hnodes
    generalize p.nodes.take i = before, p.nodes.drop (i + 1) = after,
      inner.take j = first, inner.drop (j + 1) = last at hnodes
    rw [hnodes] at hmarked ⊢
    exact ⟨by simp [hregion], hmarked.placed hregion hroot⟩
  · cases h

/-- A page of `html` that has both its regions to begin with keeps them. -/
theorem keeps_ofHtml {html : String} (h : ∀ r, (ofHtml html).hasRegion r = true) :
    (ofHtml html).Keeps where
  nodup := (marked_ofHtml html).nodup
  placed r := (placed_of_hasRegion (marked_ofHtml html) (h r)).2
  kept r := .inl (placed_of_hasRegion (marked_ofHtml html) (h r)).1

/-! ### The replacement of a region -/

/-- The ids that `idIndex` lists are those of the elements of the trees, apart from the empty
    text. -/
theorem isSome_lookup_idIndex (nodes : List Html.Node) (id : String) :
    ((idIndex nodes).lookup id).isSome = true ↔
      id ≠ "" ∧ ∃ e ∈ Node.elementsIn nodes, e.id? = some id := by
  rw [List.lookup_isSome_iff, ← Node.snd_elementsFrom 0 nodes]
  constructor
  · rintro ⟨⟨id', a⟩, hmem, hid⟩
    cases beq_iff_eq.mp hid
    obtain ⟨⟨a', e⟩, he, hrow⟩ := List.mem_filterMap.mp hmem
    simp only at hrow
    split at hrow
    · rename_i id' hid'
      by_cases hempty : id' = ""
      · simp [hempty] at hrow
      · rw [if_neg hempty] at hrow
        cases hrow
        exact ⟨hempty, e, List.mem_map.mpr ⟨(a, e), he, rfl⟩, hid'⟩
    · cases hrow
  · rintro ⟨hne, e, he, hid⟩
    obtain ⟨⟨a, e⟩, hmem, rfl⟩ := List.mem_map.mp he
    refine ⟨(id, a), List.mem_filterMap.mpr ⟨(a, e), hmem, ?_⟩, beq_self_eq_true id⟩
    simp only [hid, hne, if_false]

/-- The markup that the element of `r` has with other attributes and other content. -/
def regionMarkup (r : Region) (attributes : List (String × String)) (content : List Html.Node) :
    String :=
  let e : Html.Element := {
    name := r.name
    attributes := attributes.foldl (fun as (n, v) => as.set n v) {} }
  e.startTag ++ Node.writeAll content ++ e.endTag

/-- It is what is written for the element of `r`, wherever this stands: the element is neither void
    nor raw. -/
theorem write_renewRegion {r : Region} {e : Html.Element} (hname : e.name = r.name)
    (attributes : List (String × String)) (children content : List Html.Node) (raw : Bool) :
    Node.writeAllIn raw false [renewRegion attributes content (.element e children)] =
      regionMarkup r attributes content := by
  have hplain : ∀ e : Html.Element, e.name = r.name → e.isRaw = false ∧ e.isVoid = false := by
    intro e hname
    rw [Element.isRaw, Element.isVoid, hname]
    cases e.space <;> cases r <;> decide
  obtain ⟨hraw, hvoid⟩ := hplain { e with
    attributes := attributes.foldl (fun as (n, v) => as.set n v) {} } hname
  simp only [Node.writeAllIn, renewRegion, Node.writeIn, hraw, hvoid, Bool.false_eq_true, if_false,
    String.append_empty]
  simp only [regionMarkup, Element.startTag, Element.endTag, hname, Node.writeAll]

/-- What comes of the replacement of the region `r` of the page `p`, which leaves the page `p'`.
    `seen` says whether the region can be seen. -/
structure Renews (p : Page) (seen : Prop) (r : Region) (attributes : List (String × String))
    (markup : String) (answer : Except Error Bool) (p' : Page) : Prop where
  /-- The element of the region stands in the trees if the region is seen, and only then. -/
  stands : (regionNode? r p.nodes).isSome = true ↔ seen
  /-- The replacement does not fail, even where the region is not seen. -/
  succeeds : answer = .ok true
  /-- It counts as a change. -/
  counts : p'.mutations = p.mutations + 1
  /-- If the region is seen, its new markup is part of the markup of the page. -/
  shown : seen → ∃ before after,
    p'.html = before ++ regionMarkup r attributes (parseFragment markup) ++ after
  /-- Then the ids in the markup are found. -/
  found : seen → ∀ e ∈ Node.elementsIn (parseFragment markup), ∀ id, e.id? = some id → id ≠ "" →
    p'.contains id = true
  /-- If the region is not seen, the page looks the same as before: its markup and its ids do. -/
  unseen : ¬ seen → p'.html = p.html ∧ ∀ id, p'.contains id = p.contains id

/-- The replacement of `r` is seen exactly as long as `r` stands in the trees. -/
theorem Keeps.renews (h : p.Keeps) (r : Region) (attributes : List (String × String))
    (markup : String) :
    Renews p (r ∈ Node.regionsOf p.nodes) r attributes markup
      (p.perform (.replaceRegion r attributes markup)).1
      (p.perform (.replaceRegion r attributes markup)).2 := by
  show Renews p _ r attributes markup (.ok true)
    (p.replaceRegion r attributes (parseFragment markup))
  by_cases hr : r ∈ Node.regionsOf p.nodes
  -- markup and ids are read off the one edit of the element of the region
  · obtain ⟨a, e, children, ha, hn, hregion, hnode⟩ := regionNode?_of_mem hr
    have hedit := edited_editAt
      (fun n => [renewRegion attributes (parseFragment markup) n]) hn
    obtain ⟨before, after, hold, hnew⟩ := hedit.elementsIn
    have hname : e.name = r.name := (h.placed r).name_eq (by simp [hold]) hregion
    rw [replaceRegion_of_mem ha]
    refine ⟨iff_of_true (by rw [hnode]; rfl) hr, rfl, rfl, fun _ => ?_,
      fun _ e' he' id hid hne => ?_, fun hnot => absurd hr hnot⟩
    · have hmem : r ∈ Node.regionsOf [Node.element e children] := by simp [hregion]
      obtain ⟨front, back, raw, hwrite⟩ := (h.placed r).write_edited hedit hmem false
      rw [write_renewRegion hname] at hwrite
      exact ⟨front, back, hwrite⟩
    · refine (isSome_lookup_idIndex _ id).mpr ⟨hne, e', ?_, hid⟩
      rw [hnew]
      simp [renewRegion, he']
  -- the element stands aside, where neither markup nor ids are read
  · obtain ⟨a, n, -, heq⟩ := replaceRegion_of_not_mem h hr attributes (parseFragment markup)
    rw [heq]
    refine ⟨iff_of_false ?_ hr, rfl, rfl, fun hseen => absurd hseen hr,
      fun hseen => absurd hseen hr, fun _ => ⟨rfl, fun _ => rfl⟩⟩
    rw [(regionNode?_of_not_mem hr).2]
    exact Bool.false_ne_true

/-- **The replacement of a region.** After the instructions `is` to the page of `html` with its
    regions, the replacement of `r` succeeds. It is seen exactly if no instruction took the element
    of the region, or an element around it, out of the page. -/
theorem renews_performAll {html : String} (h : ∀ r, (ofHtml html).hasRegion r = true)
    (is : List Instruction) (r : Region) (attributes : List (String × String)) (markup : String) :
    Renews ((ofHtml html).performAll is)
      (∀ before i after, is = before ++ i :: after →
        r ∉ Node.regionsOf (((ofHtml html).performAll before).takenOut i))
      r attributes markup
      (((ofHtml html).performAll is).perform (.replaceRegion r attributes markup)).1
      (((ofHtml html).performAll is).perform (.replaceRegion r attributes markup)).2 := by
  obtain ⟨hkeeps, hregions⟩ := (keeps_ofHtml h).performAll is
  have hmem := (placed_of_hasRegion (marked_ofHtml html) (h r)).1
  have hseen : (r ∈ Node.regionsOf ((ofHtml html).performAll is).nodes) =
      ∀ before i after, is = before ++ i :: after →
        r ∉ Node.regionsOf (((ofHtml html).performAll before).takenOut i) := by
    rw [hregions r, eq_iff_iff]
    exact and_iff_right hmem
  rw [← hseen]
  exact hkeeps.renews r attributes markup

/-- The body is renewed behind the `remove` of something in it. -/
theorem renews_shown :
    (∀ r, (ofHtml "<body id=b><p id=a>x</p></body>").hasRegion r = true) ∧
      Renews ((ofHtml "<body id=b><p id=a>x</p></body>").performAll [.remove "a"])
        (∀ before i after, [Instruction.remove "a"] = before ++ i :: after →
          Region.body ∉ Node.regionsOf
            (((ofHtml "<body id=b><p id=a>x</p></body>").performAll before).takenOut i))
        .body [("class", "new")] "<p id=q></p>" (.ok true)
        (((ofHtml "<body id=b><p id=a>x</p></body>").performAll [.remove "a"]).perform
          (.replaceRegion .body [("class", "new")] "<p id=q></p>")).2 := by
  have hpage : ∀ r, (ofHtml "<body id=b><p id=a>x</p></body>").hasRegion r = true := by
    intro r
    cases r <;> decide +kernel
  exact ⟨hpage, renews_performAll hpage [.remove "a"] .body [("class", "new")] "<p id=q></p>"⟩

/-- A body that was removed is renewed by `replaceRegion`, but neither the markup nor the ids of the
    page show it. -/
theorem body_renewed_unseen :
    let p := ((ofHtml "<body id=\"b\"></body>").performAll [.remove "b"]).perform
      (.replaceRegion .body [] "<p id=\"q\"></p>")
    p.1 = .ok true ∧ p.2.mutations = 2 ∧ p.2.html = "<html><head></head></html>" ∧
      p.2.contains "q" = false := by
  refine ⟨rfl, ?_⟩
  decide +kernel

end Page

end PagePatch
