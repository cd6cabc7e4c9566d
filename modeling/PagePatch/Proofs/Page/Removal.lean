import PagePatch.Proofs.Html.First
import PagePatch.Proofs.Patch.Absent
import PagePatch.Proofs.Patch.Alone

namespace PagePatch

/-!
# Removals

An id stands for the first element that has it. When this element is removed, the id stands for the
next element that has it, so that a further removal takes that one out. Removing an id twice is
removing it once exactly if all elements that have the id go with the first one.

* `Page.Synced.first_of_has`, `Page.Synced.find?_of_first` — the element that an id leads to;
* `Page.Encloses`, `Page.Unique` — the first element with an id holds all the others; there is one
  at most;
* `Page.without`, `Page.Synced.has_without_iff` — the page after a removal, and whether the id is
  still part of it;
* `Page.RemovedTwice`, `Page.removedTwice_apply` — what two removals of an id come to, in one
  response and in two.
-/

open Html

namespace Page

variable {p : Page} {id : String}

/-! ### The first element with an id -/

/-- The address `a` that `id` leads to is that of the first element that has it; the id is not
    empty. -/
theorem Synced.first_of_find? (h : p.Synced) {a : Address} (ha : p.find? id = some a) :
    id ≠ "" ∧ ∃ e children, First (·.id? == some id) a (.element e children) p.nodes ∧
      e.id? = some id := by
  rw [h.find?_eq] at ha
  split at ha
  · cases ha
  · rename_i hid
    obtain ⟨n, hfirst⟩ := first_of_findAddress? ha
    obtain ⟨e, children, rfl, he⟩ := hfirst.exists_element
    exact ⟨hid, e, children, hfirst, beq_iff_eq.mp he⟩

/-- An id that is part of a page leads to an address `a`, at which the first element that has it
    stands. -/
theorem Synced.first_of_has (h : p.Synced) (hid : p.Has id) :
    id ≠ "" ∧ ∃ a e children, p.find? id = some a ∧
      First (·.id? == some id) a (.element e children) p.nodes ∧ e.id? = some id := by
  obtain ⟨a, ha⟩ := find?_of_has h hid
  obtain ⟨hne, e, children, hfirst, he⟩ := h.first_of_find? ha
  exact ⟨hne, a, e, children, ha, hfirst, he⟩

/-- Conversely the first element that has `id` is the one that the id leads to. -/
theorem Synced.find?_of_first (h : p.Synced) (hid : id ≠ "") {a : Address} {n : Html.Node}
    (hfirst : First (·.id? == some id) a n p.nodes) :
    p.find? id = some a ∧ p.node? id = some n := by
  have hfind : p.find? id = some a := by
    rw [h.find?_eq, if_neg hid]
    exact hfirst.findAddress?_eq
  refine ⟨hfind, ?_⟩
  rw [node?, hfind]
  exact hfirst.nodeAt?_eq

/-! ### What a removal leaves -/

/-- All elements of the page `p` that have `id` stand in the first one, or are that one: their
    addresses `b` go on from its address `a`. A page without the id is one such page. -/
def Encloses (p : Page) (id : String) : Prop :=
  ∀ a, p.find? id = some a → ∀ b e children, nodeAt? b p.nodes = some (.element e children) →
    e.id? = some id → a <+: b

/-- No more than one element of the page `p` has `id`: an element that has it is the one that the id
    leads to. -/
def Unique (p : Page) (id : String) : Prop :=
  ∀ b e children, nodeAt? b p.nodes = some (.element e children) → e.id? = some id →
    p.find? id = some b

/-- If no more than one element has `id`, this one holds all of them. -/
theorem encloses_of_unique (h : p.Unique id) : p.Encloses id := by
  intro a ha b e children hnode he
  cases ha.symm.trans (h b e children hnode he)
  exact List.prefix_rfl

/-- The page after the removal of the element that `id` leads to; it is `p` itself if there is
    none. -/
def without (p : Page) (id : String) : Page :=
  (p.removeElement id).2

theorem Synced.without (h : p.Synced) (id : String) : (p.without id).Synced :=
  h.perform (.remove id)

/-- A page has `id` if its trees do not lack it, unless `id` is the empty text. -/
theorem has_iff_not_lacks (hid : id ≠ "") :
    p.Has id ↔ ¬ Lacks (·.id? == some id) p.nodes := by
  simp [Has, Lacks, hid]

theorem without_of_find? {a : Address} (ha : p.find? id = some a) :
    p.without id = p.editAt (fun _ => []) a := by
  unfold without removeElement
  rw [ha]

theorem without_of_not_has (h : p.Synced) (hid : ¬ p.Has id) : p.without id = p := by
  unfold without removeElement
  rw [find?_of_not_has h hid]

/-- A removal of the element `id` leaves fewer nodes: at least the element itself is gone. -/
theorem nodeCount_without (h : p.Synced) {a : Address} (ha : p.find? id = some a) :
    (p.without id).nodeCount < p.nodeCount := by
  obtain ⟨-, e, children, hfirst, -⟩ := h.first_of_find? ha
  have hsize := (edited_editAt (fun _ => []) hfirst.nodeAt?_eq).sizeOf
  rw [without_of_find? ha]
  show Node.sizeOf (Html.editAt _ a p.nodes) < Node.sizeOf p.nodes
  simp only [Node.size, Node.sizeOf] at hsize
  omega

/-- **What a removal leaves of an id.** `id` is still part of the page exactly if not all elements
    that have it stood in the first one, with which they would have gone. -/
theorem Synced.has_without_iff (h : p.Synced) : (p.without id).Has id ↔ ¬ p.Encloses id := by
  by_cases hid : p.Has id
  · obtain ⟨hne, a, e, children, ha, hfirst, -⟩ := h.first_of_has hid
    have hgone : Lacks (·.id? == some id) (p.without id).nodes ↔ p.Encloses id := by
      rw [without_of_find? ha]
      -- `Encloses` speaks of the address that the id leads to, and this is `a`
      refine hfirst.lacks_removed_iff.trans ?_
      unfold Encloses
      constructor
      · rintro hall _ hfind b e children hnode hb
        cases hfind.symm.trans ha
        exact hall b e children hnode (beq_iff_eq.mpr hb)
      · intro hall b e children hnode hb
        exact hall a ha b e children hnode (beq_iff_eq.mp hb)
    rw [has_iff_not_lacks hne, hgone]
  · -- the page lacks the id before and after
    have hfind := find?_of_not_has h hid
    have henclosed : p.Encloses id := by
      intro a ha
      cases hfind.symm.trans ha
    rw [without_of_not_has h hid]
    exact iff_of_false hid (not_not_intro henclosed)

/-! ### Two removals -/

/-- A `delete` is carried out if the element is there. If it is not, the removal counts as nothing,
    and is neither passed over nor a failure. -/
theorem applyOne_delete (h : p.Synced) (reserved : ReservedIds) (id : String) :
    document.applyOne reserved (.delete id) p =
      (.ok { applied := if p.Has id then 1 else 0 }, p.without id) := by
  have hanswer : document.tell (.remove id) p = (.ok (decide (p.Has id)), p.without id) := by
    by_cases hid : p.Has id
    · rw [decide_eq_true hid]
      exact Prod.ext ((perform_remove h id).1 hid) rfl
    · rw [decide_eq_false hid, without_of_not_has h hid]
      exact (perform_remove h id).2 hid
  refine (Action.bind_of_ok hanswer _).trans ?_
  by_cases hid : p.Has id
  · simp only [hid, decide_true, if_true]
    rfl
  · simp only [hid, decide_false, if_false]
    rfl

/-- One `delete`, and two one after another: each counts if the id is part of the page that it is
    given. -/
theorem applyAll_deletes (h : p.Synced) (reserved : ReservedIds) (id : String) :
    document.applyAll reserved [.delete id] p =
        (.ok { applied := if p.Has id then 1 else 0 }, p.without id) ∧
      document.applyAll reserved [.delete id, .delete id] p =
        (.ok { applied := (if p.Has id then 1 else 0) + if (p.without id).Has id then 1 else 0 },
          (p.without id).without id) := by
  have hone : ∀ {q : Page}, q.Synced → document.applyAll reserved [.delete id] q =
      (.ok { applied := if q.Has id then 1 else 0 }, q.without id) := by
    intro q hq
    rw [applyAll_cons, Action.bind_of_ok (applyOne_delete hq reserved id)]
    rfl
  refine ⟨hone h, ?_⟩
  rw [applyAll_cons, Action.bind_of_ok (applyOne_delete h reserved id),
    Outcome.goOn_apply rfl, hone (h.without id)]
  rfl

/-- If all elements that had `id` stood in the first one, a second removal finds none and leaves the
    page as it is. -/
theorem without_of_encloses (h : p.Synced) (henclosed : p.Encloses id) :
    (p.without id).without id = p.without id :=
  without_of_not_has (h.without id) fun hid => h.has_without_iff.mp hid henclosed

/-- If they did not, a second removal takes out one more element: the first one that has `id` on the
    page `p.without id`. -/
theorem without_of_not_encloses (h : p.Synced) (hother : ¬ p.Encloses id) :
    ∃ a e children, (p.without id).find? id = some a ∧
      nodeAt? a (p.without id).nodes = some (.element e children) ∧ e.id? = some id ∧
      ((p.without id).without id).nodes = Html.editAt (fun _ => []) a (p.without id).nodes ∧
      ((p.without id).without id).mutations = (p.without id).mutations + 1 := by
  obtain ⟨-, a, e, children, ha, hfirst, he⟩ :=
    (h.without id).first_of_has (h.has_without_iff.mpr hother)
  refine ⟨a, e, children, ha, hfirst.nodeAt?_eq, he, ?_, ?_⟩
  · rw [without_of_find? ha]
    rfl
  · rw [without_of_find? ha]
    rfl

/-- What two removals of `id` come to on the page `p`, in one response or in two, with any `host`
    for its scripts. -/
structure RemovedTwice {σ : Type} (host : ScriptHost σ) (reserved : ReservedIds) (p : Page)
    (state : σ) (id : String) : Prop where
  /-- The first one is carried out if the id is part of the page. -/
  first : host.document.apply reserved (.ofList [.delete id]) (p, state) =
    (.ok { applied := if p.Has id then 1 else 0 }, p.without id, state)
  /-- So is the second one, on the page that the first one leaves. Neither is a failure. -/
  second : host.document.apply reserved (.ofList [.delete id]) (p.without id, state) =
    (.ok { applied := if (p.without id).Has id then 1 else 0 }, (p.without id).without id, state)
  /-- One response with both comes to the same. -/
  both : host.document.apply reserved (.ofList [.delete id, .delete id]) (p, state) =
    (.ok { applied := (if p.Has id then 1 else 0) + if (p.without id).Has id then 1 else 0 },
      (p.without id).without id, state)
  /-- The second one counts as nothing exactly if all elements that had the id stood in the first
      one. -/
  counts_nothing_iff : ¬ (p.without id).Has id ↔ p.Encloses id
  /-- Exactly then it leaves the page as it is. -/
  same_iff : (p.without id).without id = p.without id ↔ p.Encloses id
  /-- Exactly then it is no change of the trees. -/
  mutations_iff : ((p.without id).without id).mutations = (p.without id).mutations ↔ p.Encloses id
  /-- Exactly then the page keeps all its nodes. -/
  nodeCount_iff : ((p.without id).without id).nodeCount = (p.without id).nodeCount ↔ p.Encloses id
  /-- If no more than one element had the id, it leaves the page as it is. -/
  same_of_unique : p.Unique id → (p.without id).without id = p.without id
  /-- If the others did not all stand in the first one, it takes out another element: the first one
      that has the id now. -/
  other : ¬ p.Encloses id → ∃ a e children, (p.without id).find? id = some a ∧
    nodeAt? a (p.without id).nodes = some (.element e children) ∧ e.id? = some id ∧
      ((p.without id).without id).nodes = Html.editAt (fun _ => []) a (p.without id).nodes ∧
      ((p.without id).without id).mutations = (p.without id).mutations + 1

/-- Both removals of `id` are plain changes of the page: neither runs a script, so that the `host`
    has no say. -/
theorem Synced.removedTwice (h : p.Synced) {σ : Type} (host : ScriptHost σ)
    (reserved : ReservedIds) (state : σ) (id : String) :
    RemovedTwice host reserved p state id := by
  have hquiet : ∀ op ∈ [Operation.delete id, .delete id], op.isQuiet = true := by
    -- removals are quiet: the host of the page is not called, and its state stays
    simp [Operation.isQuiet]
  have halone : ∀ {ops : List Operation}, ops ⊆ [.delete id, .delete id] → ∀ q,
      host.document.applyAll reserved ops (q, state) = ((document.applyAll reserved ops q).1,
        (document.applyAll reserved ops q).2, state) := by
    intro ops hops q
    exact host.alone_applyAll reserved (fun op hop => hquiet op (hops hop)) q state
  constructor
  case first =>
    rw [apply_of_error?_eq_none _ _ rfl]
    show host.document.applyAll reserved [.delete id] (p, state) = _
    rw [halone (by simp), (applyAll_deletes h reserved id).1]
  case second =>
    rw [apply_of_error?_eq_none _ _ rfl]
    show host.document.applyAll reserved [.delete id] (p.without id, state) = _
    rw [halone (by simp), (applyAll_deletes (h.without id) reserved id).1]
  case both =>
    rw [apply_of_error?_eq_none _ _ rfl]
    show host.document.applyAll reserved [.delete id, .delete id] (p, state) = _
    rw [halone (by simp), (applyAll_deletes h reserved id).2]
  case counts_nothing_iff => exact (not_congr h.has_without_iff).trans not_not
  case same_iff =>
    -- a page that the second one leaves as it is would not have counted a change
    refine ⟨fun hsame => ?_, without_of_encloses h⟩
    by_contra hother
    obtain ⟨_, _, _, -, -, -, -, hmore⟩ := without_of_not_encloses h hother
    rw [hsame] at hmore
    omega
  case same_of_unique => exact fun hunique => without_of_encloses h (encloses_of_unique hunique)
  case mutations_iff =>
    refine ⟨fun hsame => ?_, fun henclosed => by rw [without_of_encloses h henclosed]⟩
    by_contra hother
    obtain ⟨_, _, _, -, -, -, -, hmore⟩ := without_of_not_encloses h hother
    omega
  case nodeCount_iff =>
    refine ⟨fun hsame => ?_, fun henclosed => by rw [without_of_encloses h henclosed]⟩
    by_contra hother
    obtain ⟨_, _, _, ha, -⟩ := without_of_not_encloses h hother
    -- the second removal took an element out, so nodes are missing
    have hfewer := nodeCount_without (h.without id) ha
    omega
  case other => exact without_of_not_encloses h

/-- **Removing twice.** On every page that a page of a text can become, with every host, two
    removals of `id` are one exactly if all elements that have it stand in the first one. -/
theorem removedTwice_apply {σ : Type} (host : ScriptHost σ) (reserved : ReservedIds) (html : String)
    (is : List Instruction) (state : σ) (id : String) :
    RemovedTwice host reserved ((ofHtml html).performAll is) state id :=
  ((synced_ofHtml html).performAll is).removedTwice host reserved state id

/-- On the page `twins` a second removal takes out the second of the two elements with the id `a`,
    and counts as one more change. -/
theorem twin_removed :
    (document.apply {} (.ofList [.delete "a", .delete "a"]) ScriptHost.twins).1 =
        .ok { applied := 2 } ∧
      (document.apply {} (.ofList [.delete "a"]) ScriptHost.twins).2.html =
        "<html><head></head><body><p id=\"a\">x</p></body></html>" ∧
      (document.apply {} (.ofList [.delete "a"]) ScriptHost.twins).2.mutations = 1 ∧
      (document.apply {} (.ofList [.delete "a", .delete "a"]) ScriptHost.twins).2.html =
        "<html><head></head><body></body></html>" ∧
      (document.apply {} (.ofList [.delete "a", .delete "a"])
        ScriptHost.twins).2.mutations = 2 := by
  decide +kernel

end Page

end PagePatch
