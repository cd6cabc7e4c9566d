import PagePatch.Proofs.Html.Context
import PagePatch.Proofs.Page.Removal

namespace PagePatch

/-!
# Changes around an element

An element of a page has siblings in front of it and behind it. What is put beside the element, or
in its place, stands among those in the order of its markup, and nothing else of the page changes.

* `Page.Holds` — the place of an element: its siblings, and what stands around them;
* `Page.editPlaced` — an edit that asks what the element stands in, which comes to the same as one
  that does not (`Page.Synced.editPlaced_eq`);
* `Page.Spliced` — a page that differs from another in its trees alone;
* `Page.Surgery` — what comes of each instruction for the element, and `Page.Stepwise` — the same as
  a sequence of changes of one node at a time;
* `ScriptHost.surgery_course` — both hold on every page, whatever its scripts did.
-/

open Html

namespace Page

/-- The element `e` that `id` leads to, with the nodes `children` in it, stands between its siblings
    `left` and `right` in the context `c`. -/
structure Holds (p : Page) (id : String) (c : Context) (left : List Html.Node) (e : Html.Element)
    (children right : List Html.Node) : Prop where
  /-- The element stands between its siblings, and the rest of the trees around those. -/
  nodes_eq : p.nodes = c.fill (left ++ .element e children :: right)
  /-- The id leads there: the address of the context, and behind the siblings in front of it. -/
  find?_eq : p.find? id = some (c.address ++ [left.length])
  /-- The element has the id. -/
  id_eq : e.id? = some id

/-- The page `q` has the trees `nodes`, and is otherwise the page `p`, from whose trees `gone` was
    taken out. Only its index, its count of changes and what it keeps aside can differ besides. -/
structure Spliced (p q : Page) (nodes gone : List Html.Node) : Prop where
  nodes_eq : q.nodes = nodes
  /-- Its ids lead to the elements of its trees. -/
  indexed : q.Indexed
  /-- It counts one change more. -/
  mutations_eq : q.mutations = p.mutations + 1
  executed_eq : q.executed = p.executed
  loaded_eq : q.loaded = p.loaded
  location_eq : q.location = p.location
  viewState_eq : q.viewState = p.viewState
  /-- Apart from its trees it keeps what it kept, and what was taken out of regions. -/
  detached_eq : ∃ lost, q.detached = p.detached ++ lost ∧
    ∀ n ∈ lost, ∃ x ∈ Node.elementsOf gone, n = .element x.1 x.2

/-- The instruction `i` is carried out: it gives the page the trees `nodes` and takes `gone` out of
    those it had, whatever runs its scripts. -/
def Turns (p : Page) (i : Instruction) (nodes gone : List Html.Node) : Prop :=
  ∃ q, p.Spliced q nodes gone ∧ p.perform i = (.ok true, q) ∧
    ∀ (σ : Type) (host : ScriptHost σ) (state : σ),
      host.document.perform i (p, state) = (.ok true, q, state)

/-- What comes of the instructions for an element that stands between the siblings `left` and
    `right` in the context `c`. -/
structure Surgery (p : Page) (id : String) (c : Context) (left : List Html.Node) (e : Html.Element)
    (children right : List Html.Node) : Prop where
  /-- Markup in front of the element. -/
  before : ∀ markup, p.Turns (.insertAdjacent id .before markup)
    (c.fill (left ++ parseFragment markup ++ .element e children :: right)) []
  /-- Markup behind the element. -/
  after : ∀ markup, p.Turns (.insertAdjacent id .after markup)
    (c.fill (left ++ .element e children :: parseFragment markup ++ right)) []
  /-- Markup in the place of the element. -/
  replaced : ∀ markup, p.Turns (.replaceElement id markup)
    (c.fill (left ++ parseFragment markup ++ right)) [.element e children]
  /-- The element is removed. -/
  removed : p.Turns (.remove id) (c.fill (left ++ right)) [.element e children]
  /-- Markup in the place of what is in the element. -/
  filled : ∀ markup, p.Turns (.replaceContent id markup)
    (c.fill (left ++ .element e (parseFragment markup) :: right)) children

/-- The instructions for the element at the address `a` are changes of one node at a time: a
    `Cursor` is put on the element, and the nodes of the markup are put beside it or added to its
    children in their order. -/
structure Stepwise (p : Page) (id : String) (a : Address) (children : List Html.Node) : Prop where
  before : ∀ markup, (p.perform (.insertAdjacent id .before markup)).2.nodes =
    ((parseFragment markup).foldl Cursor.insertBefore ⟨p.nodes, a⟩).nodes
  after : ∀ markup, (p.perform (.insertAdjacent id .after markup)).2.nodes =
    ((parseFragment markup).foldl Cursor.insertAfter ⟨p.nodes, a⟩).nodes
  /-- The element is taken out at the end, wherever it stands then. -/
  replaced : ∀ markup, (p.perform (.replaceElement id markup)).2.nodes =
    ((parseFragment markup).foldl Cursor.insertBefore ⟨p.nodes, a⟩).detach
  removed : (p.perform (.remove id)).2.nodes = Cursor.detach ⟨p.nodes, a⟩
  /-- The children are taken out before. -/
  filled : ∀ markup, (p.perform (.replaceContent id markup)).2.nodes =
    ((parseFragment markup).foldl Cursor.append
      (Cursor.detachFirst^[children.length] ⟨p.nodes, a⟩)).nodes

variable {p : Page} {id : String} {c : Context} {left right children : List Html.Node}
  {e : Html.Element}

/-- An `id` that is part of a page leads to an element, and this element has its place: a context
    and its siblings there. -/
theorem Synced.exists_holds (h : p.Synced) (hid : p.contains id = true) :
    ∃ c left e children right, p.Holds id c left e children right := by
  obtain ⟨-, a, e, children, ha, hfirst, he⟩ := h.first_of_has ((h.contains_iff id).mp hid)
  obtain ⟨c, left, right, hnodes, rfl⟩ := exists_context hfirst.nodeAt?_eq
  exact ⟨c, left, e, children, right, hnodes, ha, he⟩

/-! ### Where elements stand -/

/-- An edit `f` of the element of `id` that first asks what the element stands in, and finds nothing
    under the id if it stands in nothing. -/
def editPlaced (p : Page) (id : String) (f : Html.Node → List Html.Node) :
    Except Error Bool × Page :=
  match p.find? id with
  | some a =>
    if (parent? a p.nodes).isSome then (.ok true, p.editAt f a)
    else (.error (.elementNotFound id), p)
  | none => (.error (.elementNotFound id), p)

/-- The element that an id leads to stands in the parent of its context `c`. -/
theorem Holds.parent?_eq (h : p.Holds id c left e children right) :
    (p.find? id).bind (parent? · p.nodes) = some c.parent := by
  rw [h.find?_eq, Option.bind_some, h.nodes_eq]
  exact c.parent?_fill left _ right

/-- **Nothing stands nowhere.** Whatever an id of the page leads to stands in something, so
    `editPlaced` never finds a reason to refuse: it is `editElement`, which does not ask. -/
theorem Synced.editPlaced_eq (h : p.Synced) (id : String) (f : Html.Node → List Html.Node) :
    p.editPlaced id f = p.editElement id f := by
  rw [editPlaced, Page.editElement]
  cases hfind : p.find? id with
  | none => rfl
  | some a =>
    have hcontains : p.contains id = true := by
      rw [contains, hfind]
      rfl
    obtain ⟨c, left, e, children, right, hholds⟩ := h.exists_holds hcontains
    have hparent := hholds.parent?_eq
    rw [hfind, Option.bind_some] at hparent
    exact if_pos (Option.isSome_of_eq_some hparent)

/-! ### What stays -/

/-- When the siblings `old` in the context `c` are exchanged for `new`, a region that is lost stood
    among the trees `gone` that were taken out: all other elements are still there. -/
theorem exists_lost {gone old new : List Html.Node} (c : Context)
    (hold : ∀ x ∈ Node.elementsOf old, x ∈ Node.elementsOf gone ∨ x.1 ∈ Node.elementsIn new)
    {region : Region} {n : Html.Node} (hlost : regionNode? region (c.fill new) = none)
    (hn : regionNode? region (c.fill old) = some n) :
    ∃ x ∈ Node.elementsOf gone, n = .element x.1 x.2 := by
  rw [regionNode?, nodeAt?_findAddress?] at hlost hn
  rw [Option.map_eq_none_iff, List.find?_eq_none] at hlost
  obtain ⟨⟨e, children⟩, hfind, rfl⟩ := Option.map_eq_some_iff.mp hn
  have hregion := List.find?_some hfind
  -- no element of the new trees stands for the region
  have hno : e ∉ Node.elementsIn (c.fill new) := by
    intro he
    obtain ⟨x, hx, rfl⟩ := List.mem_map.mp he
    exact hlost x hx hregion
  have hmem := (c.mem_elementsOf_fill (List.mem_of_find?_eq_some hfind) new).resolve_left hno
  rcases hold _ hmem with hgone | hnew
  · exact ⟨_, hgone, rfl⟩
  · exact absurd (c.elementsIn_subset_fill new hnew) hno

/-- The page `p` with `new` in the place of the siblings `old`, of which `gone` was taken out. -/
theorem spliced_withNodes {gone old new : List Html.Node} (hnodes : p.nodes = c.fill old)
    (hold : ∀ x ∈ Node.elementsOf old, x ∈ Node.elementsOf gone ∨ x.1 ∈ Node.elementsIn new) :
    p.Spliced (p.withNodes (c.fill new)) (c.fill new) gone where
  nodes_eq := rfl
  indexed := (synced_withNodes p _).indexed
  mutations_eq := rfl
  executed_eq := rfl
  loaded_eq := rfl
  location_eq := rfl
  viewState_eq := rfl
  detached_eq := by
    refine ⟨_, rfl, fun n hn => ?_⟩
    obtain ⟨region, -, hlost⟩ := List.mem_filterMap.mp hn
    split at hlost
    · rename_i hnone
      rw [hnodes] at hlost
      exact exists_lost c hold (Option.isNone_iff_eq_none.mp hnone) hlost
    · cases hlost

/-! ### The instructions -/

/-- The element that `id` leads to is removed by an edit that puts nothing into its place. -/
theorem Holds.removeElement_eq (h : p.Holds id c left e children right) :
    p.removeElement id = p.editElement id fun _ => [] := by
  rw [removeElement, editElement, h.find?_eq]

/-- An edit `f` of the element that `id` leads to, by which `new` comes into its place. `hhost` says
    that the instruction runs no script. -/
theorem Holds.turns (h : p.Holds id c left e children right) {i : Instruction}
    {f : Html.Node → List Html.Node} {new gone : List Html.Node}
    (hperform : p.perform i = p.editElement id f)
    (hhost : ∀ (σ : Type) (host : ScriptHost σ) (state : σ), host.document.perform i (p, state) =
      ((p.perform i).1, (p.perform i).2, state))
    (hf : f (.element e children) = new)
    (hgone : ∀ x ∈ Node.elementsOf [.element e children],
      x ∈ Node.elementsOf gone ∨ x.1 ∈ Node.elementsIn new) :
    p.Turns i (c.fill (left ++ new ++ right)) gone := by
  have hedit : p.editElement id f =
      (.ok true, p.withNodes (c.fill (left ++ new ++ right))) := by
    rw [editElement, h.find?_eq]
    show (Except.ok true, p.editAt f _) = _
    rw [Page.editAt, h.nodes_eq, c.editAt_here, hf]
  rw [hedit] at hperform
  refine ⟨_, spliced_withNodes h.nodes_eq fun x hx => ?_, hperform, fun σ host state => ?_⟩
  · -- the siblings are still there
    rw [← List.singleton_append, Node.elementsOf_append, Node.elementsOf_append] at hx
    simp only [List.mem_append, Node.elementsIn_append] at hx ⊢
    rcases hx with hx | hx | hx
    · exact .inr (.inl (.inl (List.mem_map_of_mem hx)))
    · exact (hgone x hx).imp_right fun hnew => .inl (.inr hnew)
    · exact .inr (.inr (List.mem_map_of_mem hx))
  · rw [hhost, hperform]

/-- The instructions for the element of `id` change what stands between its siblings, each in its
    way. -/
theorem Holds.surgery (h : p.Holds id c left e children right) :
    p.Surgery id c left e children right := by
  -- nothing is lost where the element itself is among the new nodes
  have hkept : ∀ {new : List Html.Node}, Node.elementsIn [.element e children] ⊆
      Node.elementsIn new → ∀ x ∈ Node.elementsOf [.element e children],
        x ∈ Node.elementsOf [] ∨ x.1 ∈ Node.elementsIn new :=
    fun hsub x hx => .inr (hsub (List.mem_map_of_mem hx))
  constructor
  · intro markup
    have hturns := h.turns (i := .insertAdjacent id .before markup)
      (f := fun n => parseFragment markup ++ [n]) rfl (fun _ _ _ => rfl) rfl (hkept (by simp))
    simpa using hturns
  · intro markup
    have hturns := h.turns (i := .insertAdjacent id .after markup)
      (f := fun n => n :: parseFragment markup) rfl (fun _ _ _ => rfl) rfl (hkept (by simp))
    simpa using hturns
  · intro markup
    exact h.turns (f := fun _ => parseFragment markup) rfl (fun _ _ _ => rfl) rfl
      fun x hx => .inl hx
  · have hturns := h.turns (i := .remove id) (f := fun _ => [])
      h.removeElement_eq (fun _ _ _ => rfl) rfl (fun x hx => .inl hx)
    simpa using hturns
  · intro markup
    -- the element itself is still there, with other nodes in it
    have hinside : ∀ x ∈ Node.elementsOf [.element e children], x ∈ Node.elementsOf children ∨
        x.1 ∈ Node.elementsIn [.element e (parseFragment markup)] := by
      intro x hx
      rw [Node.elementsOf_element] at hx
      simp only [Node.elementsOf, List.append_nil, List.mem_cons] at hx
      rcases hx with rfl | hx
      · exact .inr (by simp)
      · exact .inl hx
    have hturns := h.turns (i := .replaceContent id markup)
      (f := fun n => [n.withChildren (parseFragment markup)]) rfl (fun _ _ _ => rfl) rfl hinside
    simpa [Node.withChildren] using hturns

theorem Turns.nodes_eq {i : Instruction} {nodes gone : List Html.Node} (h : p.Turns i nodes gone) :
    (p.perform i).2.nodes = nodes := by
  obtain ⟨q, hspliced, hperform, -⟩ := h
  rw [hperform]
  exact hspliced.nodes_eq

/-- Changes of one node at a time, by the `Cursor`, come to the same as the change of all nodes at
    once. -/
theorem Holds.stepwise (h : p.Holds id c left e children right) :
    p.Stepwise id (c.address ++ [left.length]) children := by
  have hcursor : (⟨p.nodes, c.address ++ [left.length]⟩ : Cursor) =
      c.cursor left (.element e children) right := by
    rw [h.nodes_eq]
    rfl
  have hsurgery := h.surgery
  constructor
  · intro markup
    rw [hcursor, c.foldl_insertBefore, (hsurgery.before markup).nodes_eq]
    rfl
  · intro markup
    rw [hcursor, c.nodes_foldl_insertAfter, (hsurgery.after markup).nodes_eq]
  · intro markup
    -- the nodes are put in front first, and the element that they stand before is taken out
    rw [hcursor, c.foldl_insertBefore, c.detach_cursor, (hsurgery.replaced markup).nodes_eq]
  · rw [hcursor, c.detach_cursor, hsurgery.removed.nodes_eq]
  · intro markup
    rw [hcursor, c.iterate_detachFirst, c.foldl_append, (hsurgery.filled markup).nodes_eq]
    rfl

end Page

namespace ScriptHost

variable {σ : Type} (host : ScriptHost σ)

/-- **Surgery.** On every page `p` that comes from `html` by instructions and scripts, an id that is
    part of the page leads to an element between its siblings, and the instructions for it change
    what stands between those and nothing else. -/
theorem surgery_course (html : String) (state : σ) (is : List Instruction) :
    ∀ p ∈ host.course (Page.ofHtml html, state) is, ∀ id, p.contains id = true →
      (∃ c left e children right, p.Holds id c left e children right) ∧
        ∀ c left e children right, p.Holds id c left e children right →
          p.Surgery id c left e children right ∧
            p.Stepwise id (c.address ++ [left.length]) children := by
  intro p hp id hid
  have hstart := Page.synced_ofHtml html
  have hsynced := host.synced_course (s := (Page.ofHtml html, state)) hstart is p hp
  refine ⟨hsynced.exists_holds hid, fun c left e children right h => ?_⟩
  exact ⟨h.surgery, h.stepwise⟩

/-- On every page `p` that comes from `html` by instructions and scripts, markup is put beside an
    element or in its place as if it was asked first what the element stands in. -/
theorem editPlaced_course (html : String) (state : σ) (is : List Instruction) :
    ∀ p ∈ host.course (Page.ofHtml html, state) is, ∀ id f,
      p.editPlaced id f = p.editElement id f := by
  intro p hp id f
  have hstart := Page.synced_ofHtml html
  exact (host.synced_course (s := (Page.ofHtml html, state)) hstart is p hp).editPlaced_eq id f

/-- The page that the instruction `i` makes is one of those on the way, whether or not it is
    code. -/
theorem perform_mem_course (p : Page) (state : σ) (i : Instruction) :
    (p.perform i).2 ∈ host.course (p, state) [i] := by
  cases i with
  | runScript code =>
    -- it is the page that the host gets to see
    refine List.mem_cons_of_mem _ (List.mem_append_left _ ?_)
    show _ ∈ Page.course _ _
    cases (host code (p.perform (.runScript code)).2 state).1.instructions with
    | nil => exact List.mem_cons_self
    | cons i rest => exact List.mem_cons_self
  | _ => exact List.mem_cons_of_mem _ (List.mem_append_right _ List.mem_cons_self)

/-- A list with the element `t` between two others, after the removal of an element that stood in
    front of the list. -/
def ranks : Page :=
  ((Page.ofHtml "<p id=x></p><ul><li>1</li><li id=t>2</li><li>3</li></ul>").perform
    (.remove "x")).2

/-- Two nodes, a text and an element, are put in front of the second one of the three elements of
    `ranks`, behind it, in its place and into it. -/
theorem surgery_ranks : ranks ∈ commandHost.course
      (Page.ofHtml "<p id=x></p><ul><li>1</li><li id=t>2</li><li>3</li></ul>", []) [.remove "x"] ∧
    ranks.contains "t" = true ∧
    (∃ c left e children right, ranks.Holds "t" c left e children right ∧
      ranks.Surgery "t" c left e children right ∧
      ranks.Stepwise "t" (c.address ++ [left.length]) children) ∧
    (ranks.perform (.insertAdjacent "t" .before "a<b>c</b>")).2.regionHtml .body =
      "<ul><li>1</li>a<b>c</b><li id=\"t\">2</li><li>3</li></ul>" ∧
    (ranks.perform (.insertAdjacent "t" .after "a<b>c</b>")).2.regionHtml .body =
      "<ul><li>1</li><li id=\"t\">2</li>a<b>c</b><li>3</li></ul>" ∧
    (ranks.perform (.replaceElement "t" "a<b>c</b>")).2.regionHtml .body =
      "<ul><li>1</li>a<b>c</b><li>3</li></ul>" ∧
    (ranks.perform (.replaceContent "t" "a<b>c</b>")).2.regionHtml .body =
      "<ul><li>1</li><li id=\"t\">a<b>c</b></li><li>3</li></ul>" := by
  have hmem : ranks ∈ commandHost.course
      (Page.ofHtml "<p id=x></p><ul><li>1</li><li id=t>2</li><li>3</li></ul>", [])
      [.remove "x"] :=
    commandHost.perform_mem_course _ [] (.remove "x")
  have hid : ranks.contains "t" = true := by decide +kernel
  obtain ⟨⟨c, left, e, children, right, hholds⟩, hall⟩ := surgery_course commandHost
    "<p id=x></p><ul><li>1</li><li id=t>2</li><li>3</li></ul>" [] [.remove "x"] ranks hmem "t" hid
  refine ⟨hmem, hid, ⟨c, left, e, children, right, hholds, hall _ _ _ _ _ hholds⟩, ?_, ?_, ?_, ?_⟩
  · decide +kernel
  · decide +kernel
  · decide +kernel
  · decide +kernel

end ScriptHost

end PagePatch
