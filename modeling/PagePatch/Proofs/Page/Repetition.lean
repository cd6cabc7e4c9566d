import PagePatch.Proofs.Page.Update

namespace PagePatch

/-!
# Repeated updates

A response that is sent again and again updates the same element with the same markup. The first
update puts the markup into the page. When the markup is one element with comments or blanks around
it, every further one puts these into the page once more, since it is the element alone that makes
room; all other markup is in the page already.

* `Html.overhang` — what stands around the element in such markup;
* `Page.Settles` — the element that an update leaves, and what an update makes of this element;
* `Page.repeated` — the page after a number of responses;
* `Page.Repeats`, `Page.repeats_update` — what the responses come to.
-/

open Html

/-- The nodes around the element in markup that is one element with the id `id`: comments and blank
    texts. Other markup has no overhang. -/
def Html.overhang (id : String) (fragment : List Node) : List Node :=
  if soleId? fragment = some id then fragment.filter fun n => !n.isContent else []

/-- Every node counts for at least one, so `nodes` without a node are none. -/
theorem Html.Node.sizeOf_eq_zero_iff {nodes : List Node} : Node.sizeOf nodes = 0 ↔ nodes = [] := by
  cases nodes with
  | nil => simp [Node.sizeOf]
  | cons n rest =>
    have hsize : 0 < n.size := by cases n <;> simp [Node.size]
    simp only [Node.sizeOf, reduceCtorEq, iff_false]
    omega

namespace Page

variable {p q : Page} {target : String} {fragment before after : List Html.Node} {m : Html.Node}

/-! ### The element that an update leaves -/

/-- An element `m` that an update with the trees of `fragment` puts again into the place of itself,
    with the nodes `before` and `after` around it. -/
structure Settles (target : String) (fragment before : List Html.Node) (m : Html.Node)
    (after : List Html.Node) : Prop where
  /-- What is put into its place. -/
  installed_eq : installed target fragment m = before ++ m :: after
  /-- The nodes around it. -/
  overhang_eq : overhang target fragment = before ++ after
  /-- Those in front of it hold no element. -/
  lacks : Lacks (·.id? == some target) before
  /-- It is an element with the id. -/
  element : ∃ e children, m = .element e children ∧ e.id? = some target

/-- Whatever the trees of `fragment` are, an update leaves such an element `m` in the place of the
    element that has the id `target`. -/
theorem exists_settles {e : Html.Element} (he : e.id? = some target)
    (children fragment : List Html.Node) : ∃ before m after,
      installed target fragment (.element e children) = before ++ m :: after ∧
        Settles target fragment before m after := by
  by_cases hsole : soleId? fragment = some target
  · obtain ⟨before, x, xs, after, h⟩ := soleId?_eq_some_iff.mp hsole
    have hinstalled : ∀ n, installed target fragment n = before ++ .element x xs :: after := by
      -- the markup replaces whatever element was there, the new one included
      intro n
      rw [installed_of_sole h, h.fragment_eq]
    have hkept : ∀ ns, ns ⊆ before ++ after → ns.filter (fun n => !n.isContent) = ns := by
      intro ns hns
      refine List.filter_eq_self.mpr fun n hn => ?_
      rw [h.around n (hns hn)]
      rfl
    refine ⟨before, .element x xs, after, hinstalled _, hinstalled _, ?_, ?_, x, xs, rfl, h.id_eq⟩
    · rw [overhang, if_pos hsole, h.fragment_eq, List.filter_append,
        List.filter_cons_of_neg (by simp [Node.isContent]), hkept before (by simp),
        hkept after (by simp)]
    · exact lacks_of_isContent fun n hn => h.around n (List.mem_append_left _ hn)
  -- the old element stays and holds the markup, once and again
  · refine ⟨[], .element e fragment, [], installed_of_not_sole hsole e children,
      installed_of_not_sole hsole e fragment, ?_, Lacks.nil, e, fragment, rfl, he⟩
    rw [overhang, if_neg hsole]
    rfl

/-- An update in the trees `nodes`, at the address `a` of the first element with the id, leaves `m`
    there, moved on by what stands in front of it. The number of nodes is that of before, less what
    the element held and more what came into its place. -/
theorem Settles.step (h : Settles target fragment before m after) {nodes : List Html.Node}
    {a : Address} {n : Html.Node} (hfirst : First (·.id? == some target) a n nodes)
    (hn : installed target fragment n = before ++ m :: after) :
    First (·.id? == some target) (a.shift before.length) m
        (Html.editAt (installed target fragment) a nodes) ∧
      Node.sizeOf (Html.editAt (installed target fragment) a nodes) + n.size =
        Node.sizeOf nodes + m.size + Node.sizeOf (overhang target fragment) := by
  obtain ⟨e, children, rfl, he⟩ := h.element
  refine ⟨hfirst.edit hn h.lacks (beq_iff_eq.mpr he), ?_⟩
  have hsize := (edited_editAt (installed target fragment) hfirst.nodeAt?_eq).sizeOf
  rw [hn] at hsize
  rw [h.overhang_eq]
  simp only [Node.sizeOf_append, Node.sizeOf] at hsize ⊢
  omega

/-! ### Responses in a row -/

/-- The page after `n` responses, each of which updates `target` with the same markup. -/
def repeated (p : Page) (reserved : ReservedIds) (target markup : String) : Nat → Page
  | 0 => p
  | n + 1 =>
    (document.apply reserved (.ofList [.update target markup])
      (p.repeated reserved target markup n)).2

/-- One response with the update is carried out, whatever element `n` the id leads to, and leaves
    `m` as the first element with the id. -/
theorem Settles.apply {markup : String}
    (h : Settles target (parseFragment markup) before m after) (hq : q.Synced) (hid : target ≠ "")
    {reserved : ReservedIds} (hclass : reserved.classify target = .element) {a : Address}
    {n : Html.Node} (hfirst : First (·.id? == some target) a n q.nodes)
    (hn : installed target (parseFragment markup) n = before ++ m :: after) :
    ∃ q', document.apply reserved (.ofList [.update target markup]) q = (.ok .done, q') ∧
      q'.Synced ∧ First (·.id? == some target) (a.shift before.length) m q'.nodes ∧
      q'.nodes = Html.editAt (installed target (parseFragment markup)) a q.nodes ∧
      q'.nodeCount + n.size =
        q.nodeCount + m.size + Node.sizeOf (overhang target (parseFragment markup)) := by
  have hfind := (hq.find?_of_first hid hfirst).1
  have hhas : q.Has target := (hq.contains_iff target).mp (Option.isSome_iff_exists.mpr ⟨a, hfind⟩)
  obtain ⟨executed, loaded, hran⟩ := performAll_scripts (scriptsOf (parseFragment markup))
    (q.updated target (parseFragment markup))
  have hnodes : (q.updated target (parseFragment markup)).nodes =
      Html.editAt (installed target (parseFragment markup)) a q.nodes := by
    rw [updated_of_find? hfind]
    rfl
  obtain ⟨hnew, hsize⟩ := h.step hfirst hn
  rw [← hnodes] at hnew hsize
  refine ⟨_, apply_updateElement hq hclass hhas markup, ?_⟩
  rw [scriptPlan, hran]
  exact ⟨hq.updated target _, hnew, hnodes, hsize⟩

/-- Every response but the first one finds the element `m`, and puts what stands around it into the
    page once more. With nothing around it, the trees stay. -/
theorem Settles.repeated {markup : String}
    (hsettles : Settles target (parseFragment markup) before m after) (h : p.Synced)
    (hid : target ≠ "") {reserved : ReservedIds} (hclass : reserved.classify target = .element)
    {a : Address} {n : Html.Node} (hfirst : First (·.id? == some target) a n p.nodes)
    (hn : installed target (parseFragment markup) n = before ++ m :: after) (k : Nat) :
    (document.apply reserved (.ofList [.update target markup])
        (p.repeated reserved target markup k)).1 = .ok .done ∧
      (p.repeated reserved target markup (k + 1)).Synced ∧
      (∃ b, First (·.id? == some target) b m (p.repeated reserved target markup (k + 1)).nodes) ∧
      (p.repeated reserved target markup (k + 1)).nodeCount =
        (p.repeated reserved target markup 1).nodeCount +
          k * Node.sizeOf (overhang target (parseFragment markup)) ∧
      (overhang target (parseFragment markup) = [] →
        (p.repeated reserved target markup (k + 1)).nodes =
          (p.repeated reserved target markup 1).nodes) := by
  -- what carries the induction: after each response the id leads to the same element
  induction k with
  | zero =>
    obtain ⟨q, happly, hq, hnew, -, -⟩ := hsettles.apply h hid hclass hfirst hn
    have hpage : p.repeated reserved target markup 1 = q := congrArg Prod.snd happly
    refine ⟨congrArg Prod.fst happly, ?_, ⟨_, hpage ▸ hnew⟩, ?_, fun _ => rfl⟩
    · rwa [hpage]
    · rw [Nat.zero_mul]
      rfl
  | succ k ih =>
    obtain ⟨-, hq, ⟨b, hfirst'⟩, hcount, hsame⟩ := ih
    obtain ⟨q', happly, hq', hnew, hnodes, hsize⟩ :=
      hsettles.apply hq hid hclass hfirst' hsettles.installed_eq
    have hpage : p.repeated reserved target markup (k + 2) = q' := congrArg Prod.snd happly
    refine ⟨congrArg Prod.fst happly, ?_, ⟨_, hpage ▸ hnew⟩, ?_, ?_⟩
    · rwa [hpage]
    · rw [hpage, Nat.add_mul, Nat.one_mul]
      omega
    · intro hnone
      -- nothing stands around the element, so that it is put into its own place
      obtain ⟨rfl, rfl⟩ := List.append_eq_nil_iff.mp (hsettles.overhang_eq.symm.trans hnone)
      rw [hpage, hnodes, hfirst'.editAt_self hsettles.installed_eq, hsame hnone]

/-- What responses that update `target` with the same `markup` come to on the page `p`. -/
structure Repeats (reserved : ReservedIds) (p : Page) (target markup : String) : Prop where
  /-- All of them are carried out. -/
  done : ∀ n, (document.apply reserved (.ofList [.update target markup])
    (p.repeated reserved target markup n)).1 = .ok .done
  /-- Two of them come to the same as one with the update twice. -/
  both : document.apply reserved (.ofList [.update target markup, .update target markup]) p =
    (.ok { applied := 2 }, p.repeated reserved target markup 2)
  /-- The second one leaves the markup and the number of nodes of the page exactly if nothing stands
      around the element in the markup. -/
  same_iff :
    (p.repeated reserved target markup 2).html = (p.repeated reserved target markup 1).html ∧
        (p.repeated reserved target markup 2).nodeCount =
          (p.repeated reserved target markup 1).nodeCount ↔
      overhang target (parseFragment markup) = []
  /-- Then all trees are what the first one made them, however many follow. -/
  still : overhang target (parseFragment markup) = [] → ∀ n,
    (p.repeated reserved target markup (n + 1)).nodes = (p.repeated reserved target markup 1).nodes
  /-- Otherwise the page grows by what stands around the element with every response. -/
  grows : ∀ n, (p.repeated reserved target markup (n + 1)).nodeCount =
    (p.repeated reserved target markup 1).nodeCount +
      n * Node.sizeOf (overhang target (parseFragment markup))

/-- On a page that has the element the updates settle (`exists_settles`), from the first one on. -/
theorem Synced.repeats (h : p.Synced) {reserved : ReservedIds}
    (hclass : reserved.classify target = .element) (hid : p.Has target) (markup : String) :
    Repeats reserved p target markup := by
  obtain ⟨hne, a, e, children, -, hfirst, he⟩ := h.first_of_has hid
  obtain ⟨before, m, after, hn, hsettles⟩ := exists_settles he children (parseFragment markup)
  have hrun := hsettles.repeated h hne hclass hfirst hn
  have hdone : ∀ k, document.apply reserved (.ofList [.update target markup])
      (p.repeated reserved target markup k) =
        (.ok .done, p.repeated reserved target markup (k + 1)) := by
    intro k
    exact Prod.ext (hrun k).1 rfl
  constructor
  case done => exact fun k => (hrun k).1
  case still => exact fun hnone k => (hrun k).2.2.2.2 hnone
  case grows => exact fun k => (hrun k).2.2.2.1
  case both =>
    have hboth := apply_append document reserved (a := .ofList [.update target markup])
      (b := .ofList [.update target markup]) rfl rfl
    refine (congrFun hboth p).trans ?_
    rw [Action.bind_apply, show document.apply reserved _ p = _ from hdone 0]
    show Outcome.goOn .done _ (p.repeated reserved target markup 1) = _
    rw [Outcome.goOn_apply rfl, hdone 1]
    rfl
  case same_iff =>
    constructor
    · rintro ⟨-, hcount⟩
      have hgrows : (p.repeated reserved target markup 2).nodeCount = _ := (hrun 1).2.2.2.1
      -- no node more, so the overhang has size zero
      rw [hcount, Nat.one_mul] at hgrows
      exact Html.Node.sizeOf_eq_zero_iff.mp (by omega)
    · intro hnone
      have hsame := (hrun 1).2.2.2.2 hnone
      exact ⟨congrArg Node.writeAll hsame, congrArg Node.sizeOf hsame⟩

/-- **Repeated updates.** On every page that a page of a text can become, updating an element twice
    is updating it once exactly if nothing stands around the element in the markup: its `overhang`
    is empty. -/
theorem repeats_update (reserved : ReservedIds) (html : String) (is : List Instruction)
    {target : String} (hclass : reserved.classify target = .element)
    (hid : ((ofHtml html).performAll is).contains target = true) (markup : String) :
    Repeats reserved ((ofHtml html).performAll is) target markup := by
  have h := (synced_ofHtml html).performAll is
  exact h.repeats hclass ((h.contains_iff target).mp hid) markup

/-- A page with the element `p`, one of whose attributes was set. -/
def panel : Page :=
  (ofHtml "<div id=p></div>").performAll [.setAttribute "p" "class" "x"]

/-- An update of `panel` that can be repeated: the comment in it stands inside the element, not
    around it. -/
theorem repeats_panel :
    (({} : ReservedIds).classify "p" = .element ∧ panel.contains "p" = true) ∧
      Repeats {} panel "p" "<div id=p><!--c-->x</div>" ∧
      overhang "p" (parseFragment "<div id=p><!--c-->x</div>") = [] ∧
      (panel.repeated {} "p" "<div id=p><!--c-->x</div>" 2).html =
        "<html><head></head><body><div id=\"p\"><!--c-->x</div></body></html>" := by
  have hclass : ({} : ReservedIds).classify "p" = .element := by decide
  have hid : panel.contains "p" = true := by decide +kernel
  refine ⟨⟨hclass, hid⟩, ?_, ?_, ?_⟩
  · exact repeats_update {} "<div id=p></div>" [.setAttribute "p" "class" "x"] hclass hid _
  · have hsole : soleId? (parseFragment "<div id=p><!--c-->x</div>") = some "p" := by decide +kernel
    rw [overhang, if_pos hsole]
    rfl
  · decide +kernel

/-- A line break behind the element of `panel` is a node around it, and comes once more with every
    update. -/
theorem panel_grows :
    (panel.repeated {} "p" "<div id=p>x</div>\n" 1).html =
        "<html><head></head><body><div id=\"p\">x</div>\n</body></html>" ∧
      (panel.repeated {} "p" "<div id=p>x</div>\n" 2).html =
        "<html><head></head><body><div id=\"p\">x</div>\n\n</body></html>" ∧
      (panel.repeated {} "p" "<div id=p>x</div>\n" 1).nodeCount = 6 ∧
      (panel.repeated {} "p" "<div id=p>x</div>\n" 2).nodeCount = 7 := by
  decide +kernel

end Page

end PagePatch
