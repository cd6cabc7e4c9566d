import PagePatch.Proofs.Html.Order

namespace PagePatch.Html

/-!
# The first element of a kind

What an id stands for is the first element that has it. An edit of that element decides which
element is the first one afterwards.

* `Lacks` — trees without an element of a kind;
* `First` — the first element of a kind among trees, and `first_of_findAddress?` — it is the one
  that is found;
* `First.edit` — the first element after an edit that leaves an element of the kind;
* `First.editAt_self`, `First.editAt_editAt`, `First.nodeAt?_of_ne` — an edit that changes nothing,
  a second edit, and what an edit leaves alone;
* `First.lacks_removed_iff` — whether an element of the kind stays when the first one is removed;
* `Edited.sizeOf` — the number of nodes after an edit.
-/

/-- The address of the node that stands `k` places further on among the same siblings. -/
def Address.shift (k : Nat) : Address → Address
  | [] => []
  | [i] => [i + k]
  | i :: j :: rest => i :: shift k (j :: rest)

/-- No places further on is the same place `a`. -/
@[simp] theorem Address.shift_zero (a : Address) : a.shift 0 = a := by
  induction a with
  | nil => rfl
  | cons i rest ih =>
    cases rest with
    | nil => rfl
    | cons j rest => rw [shift, ih]

theorem Address.shift_cons {a : Address} (ha : a ≠ []) (i k : Nat) :
    Address.shift k (i :: a) = i :: a.shift k := by
  obtain ⟨j, rest, rfl⟩ := List.exists_cons_of_ne_nil ha
  rfl

/-! ### Trees without elements of a kind -/

/-- No element among the trees `nodes`, or anywhere in them, is of the kind `p`. -/
def Lacks (p : Element → Bool) (nodes : List Node) : Prop :=
  ∀ e ∈ Node.elementsIn nodes, p e = false

namespace Lacks

variable {p : Element → Bool}

theorem nil : Lacks p [] := by
  intro e he
  cases he

theorem append_iff {ns ms : List Node} : Lacks p (ns ++ ms) ↔ Lacks p ns ∧ Lacks p ms := by
  unfold Lacks
  rw [Node.elementsIn_append, List.forall_mem_append]

theorem element_iff {e : Element} {children : List Node} :
    Lacks p [.element e children] ↔ p e = false ∧ Lacks p children := by
  unfold Lacks
  rw [Node.elementsIn_element, Node.elementsIn_nil, List.append_nil, List.forall_mem_cons]

theorem cons_iff {n : Node} {rest : List Node} :
    Lacks p (n :: rest) ↔ Lacks p [n] ∧ Lacks p rest := by
  rw [← List.singleton_append, append_iff]

end Lacks

/-- The elements among `nodes` are those that some address leads to. -/
theorem Node.mem_elementsIn_iff {nodes : List Node} {e : Element} :
    e ∈ Node.elementsIn nodes ↔ ∃ a children, nodeAt? a nodes = some (.element e children) := by
  have hsnd : (elementsAt nodes).map Prod.snd = Node.elementsIn nodes := snd_elementsFrom 0 nodes
  rw [← hsnd, List.mem_map]
  constructor
  · rintro ⟨⟨a, e'⟩, hmem, rfl⟩
    exact ⟨a, mem_elementsAt.mp hmem⟩
  · rintro ⟨a, hnode⟩
    exact ⟨(a, e), mem_elementsAt.mpr hnode, rfl⟩

/-- Trees lack a kind `p` if no address leads to an element of the kind. -/
theorem lacks_iff {p : Element → Bool} {nodes : List Node} : Lacks p nodes ↔
    ∀ a e children, nodeAt? a nodes = some (.element e children) → p e = false := by
  constructor
  · intro h a e children hnode
    exact h e (Node.mem_elementsIn_iff.mpr ⟨a, children, hnode⟩)
  · intro h e he
    obtain ⟨a, children, hnode⟩ := Node.mem_elementsIn_iff.mp he
    exact h a e children hnode

/-- Trees to which an address `a` of an element of the kind belongs do not lack the kind `p`. -/
theorem Lacks.absurd {p : Element → Bool} {nodes : List Node} (h : Lacks p nodes) {a : Address}
    {e : Element} {children : List Node} (hnode : nodeAt? a nodes = some (.element e children))
    (he : p e = true) : False := by
  have hnot := lacks_iff.mp h a e children hnode
  rw [he] at hnot
  cases hnot

/-! ### Addresses among several trees -/

/-- The node at a position decides what the `rest` of an address leads to. -/
theorem nodeAt?_congr {ns ms : List Node} {i j : Nat} (h : ns[i]? = ms[j]?) (rest : Address) :
    nodeAt? (i :: rest) ns = nodeAt? (j :: rest) ms := by
  cases rest with
  | nil => exact h
  | cons k rest => rw [nodeAt?_cons_cons, nodeAt?_cons_cons, h]

section

variable (before : List Node) (n : Node) (after : List Node)

/-- An address whose position is in front of the tree `n` leads where it leads among the trees
    `before`. -/
theorem nodeAt?_front {i : Nat} (hi : i < before.length) (rest : Address) :
    nodeAt? (i :: rest) (before ++ n :: after) = nodeAt? (i :: rest) before :=
  nodeAt?_congr (List.getElem?_append_left hi) rest

/-- An address whose position is behind the tree `n` leads where it leads among the trees
    `after`. -/
theorem nodeAt?_back (i : Nat) (rest : Address) :
    nodeAt? ((before.length + 1 + i) :: rest) (before ++ n :: after) =
      nodeAt? (i :: rest) after := by
  refine nodeAt?_congr ?_ rest
  rw [List.getElem?_append_right (by omega)]
  have hi : before.length + 1 + i - before.length = i + 1 := by omega
  rw [hi, List.getElem?_cons_succ]

/-- The address of the tree `n` behind `before`. -/
theorem nodeAt?_here : nodeAt? [before.length] (before ++ n :: after) = some n := by
  simp [nodeAt?]

/-- An address that goes on from the tree `n` leads among its children. -/
theorem nodeAt?_below {a : Address} (ha : a ≠ []) :
    nodeAt? (before.length :: a) (before ++ n :: after) = nodeAt? a n.children := by
  obtain ⟨j, rest, rfl⟩ := List.exists_cons_of_ne_nil ha
  rw [nodeAt?_cons_cons]
  simp

/-- The same where the tree is an element `e`: the address goes on among its `children`. -/
theorem nodeAt?_within {a : Address} (ha : a ≠ []) (e : Element) (children : List Node) :
    nodeAt? (before.length :: a) (before ++ .element e children :: after) = nodeAt? a children :=
  nodeAt?_below before (.element e children) after ha

/-- An edit `f` of the tree `n` behind `before`. -/
theorem editAt_here (f : Node → List Node) :
    editAt f [before.length] (before ++ n :: after) = before ++ f n ++ after := by
  simp [editAt]

/-- An edit `f` at an address that goes on from an element is an edit of its `children`. -/
theorem editAt_within (f : Node → List Node) {a : Address} (ha : a ≠ []) (e : Element)
    (children : List Node) :
    editAt f (before.length :: a) (before ++ .element e children :: after) =
      before ++ .element e (editAt f a children) :: after := by
  obtain ⟨j, rest, rfl⟩ := List.exists_cons_of_ne_nil ha
  have hnode : (before ++ .element e children :: after)[before.length]? =
      some (.element e children) := by simp
  rw [editAt_cons_cons, modify_eq_take_cons_drop hnode]
  simp [Node.withChildren, Node.children]

/-- A position `i` is in front of the tree behind `before`, that of the tree, or behind it. -/
theorem position_cases (i : Nat) :
    i < before.length ∨ i = before.length ∨ ∃ k, i = before.length + 1 + k := by
  rcases Nat.lt_trichotomy i before.length with hlt | heq | hgt
  · exact .inl hlt
  · exact .inr (.inl heq)
  · exact .inr (.inr ⟨i - (before.length + 1), by omega⟩)

/-- What an address leads to stands in front of the tree `n`, is the tree, stands below it, or
    behind it. -/
theorem nodeAt?_cases {a : Address} {m : Node}
    (h : nodeAt? a (before ++ n :: after) = some m) :
    nodeAt? a before = some m ∨ a = [before.length] ∧ m = n ∨
      (∃ b, a = before.length :: b ∧ nodeAt? b n.children = some m) ∨
      ∃ i rest, a = (before.length + 1 + i) :: rest ∧ nodeAt? (i :: rest) after = some m := by
  cases a with
  | nil => cases h
  | cons i rest =>
    rcases position_cases before i with hi | rfl | ⟨k, rfl⟩
    · rw [nodeAt?_front _ _ _ hi] at h
      exact .inl h
    · cases rest with
      | nil =>
        rw [nodeAt?_here] at h
        exact .inr (.inl ⟨rfl, (Option.some.inj h).symm⟩)
      | cons j rest =>
        rw [nodeAt?_below _ _ _ (List.cons_ne_nil _ _)] at h
        exact .inr (.inr (.inl ⟨_, rfl, h⟩))
    · rw [nodeAt?_back] at h
      exact .inr (.inr (.inr ⟨k, rest, rfl, h⟩))

end

/-! ### The first element -/

/-- The node `n` is the first element of the kind `p` among trees, and stands at the address `a`. -/
inductive First (p : Element → Bool) : Address → Node → List Node → Prop
  /-- It is one of the trees. -/
  | here {before : List Node} {e : Element} {children after : List Node}
    (hbefore : Lacks p before) (he : p e = true) :
    First p [before.length] (.element e children) (before ++ .element e children :: after)
  /-- It stands below an element that is not of the kind. -/
  | within {before : List Node} {e : Element} {children after : List Node} {a : Address} {n : Node}
    (hbefore : Lacks p before) (he : p e = false) (h : First p a n children) :
    First p (before.length :: a) n (before ++ .element e children :: after)

namespace First

variable {p : Element → Bool} {a : Address} {n : Node} {nodes : List Node}

theorem ne_nil (h : First p a n nodes) : a ≠ [] := by
  cases h <;> exact List.cons_ne_nil _ _

/-- The first element of the kind stands at its address `a`. -/
theorem nodeAt?_eq (h : First p a n nodes) : nodeAt? a nodes = some n := by
  induction h with
  | here _ _ => exact nodeAt?_here _ _ _
  | within _ _ h ih => rw [nodeAt?_within _ _ h.ne_nil, ih]

/-- The node `n` is an element of the kind `p`. -/
theorem exists_element (h : First p a n nodes) :
    ∃ e children, n = .element e children ∧ p e = true := by
  induction h with
  | here _ he => exact ⟨_, _, rfl, he⟩
  | within _ _ _ ih => exact ih

/-- It stands in front of every other element of the kind: its address `a` is before any address `b`
    that leads to one. -/
theorem eq_or_before (h : First p a n nodes) {b : Address} {e : Element} {children : List Node}
    (hnode : nodeAt? b nodes = some (.element e children)) (he : p e = true) :
    a = b ∨ a.Before b := by
  induction h generalizing b with
  | here hbefore _ =>
    -- the first element is one of the trees: another one stands below it or behind it
    rcases nodeAt?_cases _ _ _ hnode with hin | ⟨rfl, -⟩ | ⟨b, rfl, hin⟩ | ⟨k, rest, rfl, -⟩
    · exact (hbefore.absurd hin he).elim
    · exact .inl rfl
    · cases b with
      | nil => cases hin
      | cons j rest => exact .inr (.cons .nil)
    · exact .inr (.rel (by omega))
  | within hbefore he' _ ih =>
    -- the first element stands below another one, which comes before it but is not of the kind
    rcases nodeAt?_cases _ _ _ hnode with hin | ⟨rfl, heq⟩ | ⟨b, rfl, hin⟩ | ⟨k, rest, rfl, -⟩
    · exact (hbefore.absurd hin he).elim
    · -- the element around it is not of the kind
      cases heq
      rw [he] at he'
      cases he'
    · rcases ih hin with rfl | hbefore
      · exact .inl rfl
      · exact .inr (.cons hbefore)
    · exact .inr (.rel (by omega))

/-- It is the one that `findAddress?` comes to when the trees are searched for the kind. -/
theorem findAddress?_eq (h : First p a n nodes) : findAddress? p nodes = some a := by
  obtain ⟨e, children, rfl, he⟩ := h.exists_element
  exact findAddress?_eq_some_iff.mpr
    ⟨⟨e, children, h.nodeAt?_eq, he⟩, fun b e' children' hnode he' => h.eq_or_before hnode he'⟩

/-- It stays the first element when a tree `m` without an element of the kind is put in front, and
    its place is one further on. -/
theorem cons {i : Nat} {rest : Address} {m : Node} (hm : Lacks p [m])
    (h : First p (i :: rest) n nodes) : First p ((i + 1) :: rest) n (m :: nodes) := by
  cases h with
  | @here before e children after hbefore he =>
    exact @First.here p (m :: before) e children after (Lacks.cons_iff.mpr ⟨hm, hbefore⟩) he
  | @within before e children after a n hbefore he h =>
    exact @First.within p (m :: before) e children after _ _ (Lacks.cons_iff.mpr ⟨hm, hbefore⟩) he h

end First

/-- There is a first element of the kind `p` if the trees do not lack it. -/
theorem exists_first {p : Element → Bool} :
    ∀ {nodes : List Node}, ¬ Lacks p nodes → ∃ a n, First p a n nodes
  | [], h => absurd Lacks.nil h
  | n :: rest, h => by
    -- the first tree is passed if it lacks the kind; otherwise it is the one, or has it below
    by_cases hn : Lacks p [n]
    · have hrest : ¬ Lacks p rest := fun hrest => h (Lacks.cons_iff.mpr ⟨hn, hrest⟩)
      obtain ⟨a, m, hfirst⟩ := exists_first hrest
      obtain ⟨i, path, rfl⟩ := List.exists_cons_of_ne_nil hfirst.ne_nil
      exact ⟨(i + 1) :: path, m, hfirst.cons hn⟩
    · cases n with
      | element e children =>
        rw [Lacks.element_iff] at hn
        cases he : p e with
        | true => exact ⟨[0], _, @First.here p [] e children rest Lacks.nil he⟩
        | false =>
          have hchildren : ¬ Lacks p children := fun hall => hn ⟨he, hall⟩
          obtain ⟨a, m, hfirst⟩ := exists_first hchildren
          exact ⟨0 :: a, m, @First.within p [] e children rest a m Lacks.nil he hfirst⟩
      | text s | comment s | doctype name => exact absurd (fun e he => nomatch he) hn

/-- The element that `findAddress?` finds for the kind `p` is the first one. -/
theorem first_of_findAddress? {p : Element → Bool} {a : Address} {nodes : List Node}
    (h : findAddress? p nodes = some a) : ∃ n, First p a n nodes := by
  have hsome : ¬ Lacks p nodes := by
    obtain ⟨e, children, hnode, he⟩ := findAddress?_eq_some h
    exact fun hlacks => hlacks.absurd hnode he
  obtain ⟨b, n, hfirst⟩ := exists_first hsome
  cases hfirst.findAddress?_eq.symm.trans h
  exact ⟨n, hfirst⟩

namespace First

variable {p : Element → Bool} {a : Address} {n : Node} {nodes : List Node}

/-! ### Edits of the first element -/

/-- **The first element after an edit.** What `f` puts in the place of the first element `n` begins
    with nodes `before` that lack the kind. If an element of the kind comes next, it is the first
    one now, as many places further on. -/
theorem edit (h : First p a n nodes) {f : Node → List Node} {before after : List Node} {e : Element}
    {children : List Node} (hf : f n = before ++ .element e children :: after)
    (hbefore : Lacks p before) (he : p e = true) :
    First p (a.shift before.length) (.element e children) (editAt f a nodes) := by
  induction h with
  | @here front e' children' back hfront _ =>
    have hnodes : editAt f [front.length] (front ++ .element e' children' :: back) =
        (front ++ before) ++ .element e children :: (after ++ back) := by
      rw [editAt_here, hf]
      simp
    have hplace : Address.shift before.length [front.length] = [(front ++ before).length] := by
      rw [List.length_append]
      rfl
    rw [hnodes, hplace]
    exact .here (Lacks.append_iff.mpr ⟨hfront, hbefore⟩) he
  | within hfront he' h ih =>
    rw [editAt_within _ _ _ h.ne_nil, Address.shift_cons h.ne_nil]
    exact .within hfront he' (ih hf)

/-- An element of the kind in the place of the first one, by the edit `f`, is the first one, at the
    same address. -/
theorem edit_single (h : First p a n nodes) {f : Node → List Node} {e : Element}
    {children : List Node} (hf : f n = [.element e children]) (he : p e = true) :
    First p a (.element e children) (editAt f a nodes) := by
  have hnew : First p (a.shift ([] : List Node).length) (.element e children) (editAt f a nodes) :=
    h.edit hf Lacks.nil he
  rwa [List.length_nil, Address.shift_zero] at hnew

/-- An edit `f` that puts the first element into its own place changes nothing. -/
theorem editAt_self (h : First p a n nodes) {f : Node → List Node} (hf : f n = [n]) :
    editAt f a nodes = nodes := by
  induction h with
  | here _ _ =>
    rw [editAt_here, hf]
    simp
  | within _ _ h ih => rw [editAt_within _ _ _ h.ne_nil, ih hf]

/-- Edits `f` and `g` at the address of the first element are the same if they make the same of
    it. -/
theorem editAt_congr (h : First p a n nodes) {f g : Node → List Node} (hfg : f n = g n) :
    editAt f a nodes = editAt g a nodes := by
  induction h with
  | here _ _ => rw [editAt_here, editAt_here, hfg]
  | within _ _ h ih => rw [editAt_within _ _ _ h.ne_nil, editAt_within _ _ _ h.ne_nil, ih hfg]

/-- Two edits at one address come to one, if the first one leaves a single node `m` there. -/
theorem editAt_editAt (h : First p a n nodes) (g : Node → List Node) (m : Node) :
    editAt g a (editAt (fun _ => [m]) a nodes) = editAt (fun _ => g m) a nodes := by
  induction h with
  | @here before _ _ after _ _ =>
    rw [editAt_here, editAt_here, List.append_assoc, List.singleton_append, editAt_here]
  | within _ _ h ih =>
    rw [editAt_within _ _ _ h.ne_nil, editAt_within _ _ _ h.ne_nil, editAt_within _ _ _ h.ne_nil,
      ih]

/-- An edit that leaves one node `m` leaves it at the same address. -/
theorem nodeAt?_edit (h : First p a n nodes) (m : Node) :
    nodeAt? a (editAt (fun _ => [m]) a nodes) = some m := by
  induction h with
  | @here before _ _ after _ _ =>
    rw [editAt_here, List.append_assoc, List.singleton_append, nodeAt?_here]
  | within _ _ h ih => rw [editAt_within _ _ _ h.ne_nil, nodeAt?_within _ _ h.ne_nil, ih]

/-- An edit of the first element that leaves what is in it leaves every other node, at `b`, apart
    from what is in that one. Of a node around the edited one the children differ, so both sides are
    compared without them. -/
theorem nodeAt?_of_ne {e e' : Element} {children : List Node}
    (h : First p a (.element e children) nodes) {b : Address} (hb : b ≠ a) :
    (nodeAt? b (editAt (fun _ => [.element e' children]) a nodes)).map (Node.withChildren []) =
      (nodeAt? b nodes).map (Node.withChildren []) := by
  generalize hn : Node.element e children = n at h
  -- on the way down to the element, both sides have the same nodes beside the way
  induction h generalizing b with
  | @here before _ _ after _ _ =>
    cases hn
    rw [editAt_here, List.append_assoc, List.singleton_append]
    cases b with
    | nil => rfl
    | cons i rest =>
      rcases position_cases before i with hi | rfl | ⟨k, rfl⟩
      · rw [nodeAt?_front _ _ _ hi, nodeAt?_front _ _ _ hi]
      · have hrest : rest ≠ [] := fun hnil => hb (by rw [hnil])
        rw [nodeAt?_within _ _ hrest, nodeAt?_within _ _ hrest]
      · rw [nodeAt?_back, nodeAt?_back]
  | @within before _ _ after a _ _ _ h ih =>
    rw [editAt_within _ _ _ h.ne_nil]
    cases b with
    | nil => rfl
    | cons i rest =>
      rcases position_cases before i with hi | rfl | ⟨k, rfl⟩
      · rw [nodeAt?_front _ _ _ hi, nodeAt?_front _ _ _ hi]
      · cases rest with
        | nil =>
          -- an element around the first one: only what is in it differs
          rw [nodeAt?_here, nodeAt?_here]
          rfl
        | cons j rest =>
          rw [nodeAt?_within _ _ (List.cons_ne_nil _ _), nodeAt?_within _ _ (List.cons_ne_nil _ _)]
          exact ih (fun heq => hb (by rw [heq])) hn
      · rw [nodeAt?_back, nodeAt?_back]

/-- If all elements of the kind stand below the tree `m`, or are this tree, those behind it lack the
    kind: what stands behind a tree does not stand below it. -/
theorem lacks_after {before after : List Node} {m : Node} {a : Address}
    (hall : ∀ b e children, nodeAt? b (before ++ m :: after) = some (.element e children) →
      p e = true → before.length :: a <+: b) : Lacks p after := by
  refine lacks_iff.mpr fun b e children hnode => ?_
  rw [← Bool.not_eq_true]
  intro he
  cases b with
  | nil => cases hnode
  | cons k rest =>
    have hprefix := hall _ e children ((nodeAt?_back before m after k rest).trans hnode) he
    obtain ⟨heq, -⟩ := List.cons_prefix_cons.mp hprefix
    omega

/-- **What stays when the first element is removed.** No element of the kind stays exactly if the
    first one holds all the others: their addresses `b` go on from `a`. -/
theorem lacks_removed_iff (h : First p a n nodes) : Lacks p (editAt (fun _ => []) a nodes) ↔
    ∀ b e children, nodeAt? b nodes = some (.element e children) → p e = true → a <+: b := by
  induction h with
  | @here before e children after hbefore _ =>
    rw [editAt_here, List.append_nil, Lacks.append_iff]
    constructor
    · rintro ⟨-, hafter⟩ b e' children' hnode he'
      -- ⟨rfl, -⟩ | ⟨b, rfl, -⟩ | what is of the kind is the first one or stands below it; elsewhere
      -- nothing is left of the kind
      rcases nodeAt?_cases _ _ _ hnode with hin | ⟨rfl, -⟩ | ⟨b, rfl, -⟩ | ⟨k, rest, rfl, hin⟩
      · exact (hbefore.absurd hin he').elim
      · exact List.prefix_rfl
      · exact List.prefix_append [before.length] b
      · exact (hafter.absurd hin he').elim
    · exact fun hall => ⟨hbefore, lacks_after hall⟩
  | @within before e children after a n hbefore he h ih =>
    rw [editAt_within _ _ _ h.ne_nil, Lacks.append_iff, Lacks.cons_iff, Lacks.element_iff]
    constructor
    · rintro ⟨-, ⟨-, hchildren⟩, hafter⟩ b e' children' hnode he'
      rcases nodeAt?_cases _ _ _ hnode with hin | ⟨rfl, heq⟩ | ⟨b, rfl, hin⟩ | ⟨k, rest, rfl, hin⟩
      · exact (hbefore.absurd hin he').elim
      · cases heq
        rw [he'] at he
        cases he
      · exact List.cons_prefix_cons.mpr ⟨rfl, ih.mp hchildren b e' children' hin he'⟩
      · exact (hafter.absurd hin he').elim
    · intro hall
      refine ⟨hbefore, ⟨he, ih.mpr fun b e' children' hnode he' => ?_⟩, lacks_after hall⟩
      have hb : b ≠ [] := by
        rintro rfl
        cases hnode
      have hwithin := nodeAt?_within before after hb e children
      have hprefix := hall _ e' children' (hwithin.trans hnode) he'
      exact (List.cons_prefix_cons.mp hprefix).2

end First

/-! ### Numbers of nodes -/

theorem Node.sizeOf_append (ns ms : List Node) :
    Node.sizeOf (ns ++ ms) = Node.sizeOf ns + Node.sizeOf ms := by
  induction ns with
  | nil => simp [Node.sizeOf]
  | cons n ns ih => simp [Node.sizeOf, ih, Nat.add_assoc]

/-- An edit exchanges the nodes of one tree: the number of nodes is less by those of `n` and more by
    those of `new`. -/
theorem Edited.sizeOf {n : Node} {new ns ns' : List Node} (h : Edited n new ns ns') :
    Node.sizeOf ns' + n.size = Node.sizeOf ns + Node.sizeOf new := by
  induction h with
  | top before after =>
    simp only [Node.sizeOf_append, Node.sizeOf]
    omega
  | within before after e _ ih =>
    simp only [Node.sizeOf_append, Node.sizeOf, Node.size]
    omega

end PagePatch.Html
