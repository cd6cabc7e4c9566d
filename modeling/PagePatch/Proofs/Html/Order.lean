import Mathlib.Data.List.Find
import PagePatch.Proofs.Html.Edit

namespace PagePatch.Html

/-!
# Document order

The elements of a list of trees are met in document order: an element before what is in it, and that
before what stands behind the element. On addresses this is the lexicographic order.

* `Address.Before` — the order of addresses;
* `Node.sorted_elementsFrom` — the addresses of the elements, in order;
* `mem_elementsAt` — which elements have an address: those that are found there;
* `map_nodeAt?_elementsAt` — the elements at the addresses, in order;
* `findAddress?_eq_some_iff`, `nodeAt?_findAddress?` — the first element of a kind.
-/

/-! ### The order of addresses -/

/-- The address `a` stands before the address `b` in document order: an element before what is in
    it, and what is in it before what stands behind it. -/
def Address.Before (a b : Address) : Prop :=
  List.Lex (fun i j : Nat => i < j) a b

theorem Address.Before.asymm {a b : Address} (h : Before a b) : ¬ Before b a :=
  List.lex_asymm (fun hij => Nat.lt_asymm hij) h

mutual

/-- The addresses that are listed for the elements of a tree ascend in the order
    `Address.Before`. -/
theorem Node.sorted_elementsBelow :
    ∀ n : Node, (n.elementsBelow.map Prod.fst).Pairwise Address.Before
  | .element e children => by
    rw [elementsBelow, List.map_cons, List.pairwise_cons]
    refine ⟨fun a ha => ?_, sorted_elementsFrom 0 children⟩
    -- everything in an element has an address that goes on
    obtain ⟨⟨a, e'⟩, hmem, rfl⟩ := List.mem_map.mp ha
    obtain ⟨j, rest, rfl, -⟩ := nodeAt?_of_mem_elementsFrom hmem
    exact .nil
  | .text _ | .comment _ | .doctype _ => List.Pairwise.nil

/-- The addresses that are listed for the elements of a list of trees, counted from `i` on,
    ascend. -/
theorem Node.sorted_elementsFrom (i : Nat) :
    ∀ ns : List Node, ((elementsFrom i ns).map Prod.fst).Pairwise Address.Before
  | [] => List.Pairwise.nil
  | n :: rest => by
    rw [elementsFrom, List.map_append, List.map_map, List.pairwise_append]
    refine ⟨?_, sorted_elementsFrom (i + 1) rest, fun a ha b hb => ?_⟩
    · have hbelow : ((n.elementsBelow.map Prod.fst).map (i :: ·)).Pairwise Address.Before :=
        (sorted_elementsBelow n).map _ fun a b h => List.Lex.cons h
      rwa [List.map_map] at hbelow
    · -- the positions of the trees differ at the first step
      obtain ⟨⟨a, e⟩, -, rfl⟩ := List.mem_map.mp ha
      obtain ⟨⟨b, e'⟩, hmem, rfl⟩ := List.mem_map.mp hb
      obtain ⟨j, rest, rfl, -⟩ := nodeAt?_of_mem_elementsFrom hmem
      exact .rel (by omega)

end

/-- The addresses of the elements of `nodes` ascend in document order. -/
theorem sorted_elementsAt (nodes : List Node) :
    ((elementsAt nodes).map Prod.fst).Pairwise Address.Before :=
  Node.sorted_elementsFrom 0 nodes

/-! ### Elements and their addresses -/

mutual

/-- An element `e` that an address finds below a tree is listed with this address. -/
theorem Node.mem_elementsBelow_of_nodeAt? {j : Nat} {rest : Address} {e : Element}
    {children : List Node} :
    ∀ {n : Node}, nodeAt? (j :: rest) n.children = some (.element e children) →
      (j :: rest, e) ∈ n.elementsBelow
  | .element e' children', h => by
    have hmem := mem_elementsFrom_of_nodeAt? 0 h
    rw [Nat.zero_add] at hmem
    exact List.mem_cons_of_mem _ hmem
  | .text _, h | .comment _, h | .doctype _, h => by
    cases rest with
    | nil => cases h
    | cons k rest => cases h

/-- An element that an address finds in a list of trees is listed with this address, counted from
    `i` on. -/
theorem Node.mem_elementsFrom_of_nodeAt? {j : Nat} {rest : Address} {e : Element}
    {children : List Node} (i : Nat) :
    ∀ {ns : List Node}, nodeAt? (j :: rest) ns = some (.element e children) →
      ((i + j) :: rest, e) ∈ elementsFrom i ns
  | [], h => by
    cases rest with
    | nil => cases h
    | cons k rest => cases h
  | n :: ns, h => by
    rw [elementsFrom, List.mem_append]
    cases j with
    | zero =>
      refine .inl (List.mem_map.mpr ⟨(rest, e), ?_, rfl⟩)
      cases rest with
      | nil =>
        cases h
        exact List.mem_cons_self
      | cons k rest => exact mem_elementsBelow_of_nodeAt? (n := n) h
    | succ j =>
      have hrest : nodeAt? (j :: rest) ns = some (.element e children) := by
        cases rest with
        | nil => exact h
        | cons k rest => exact h
      -- it stands in one of the other trees, whose places count from one further on
      have hmem := mem_elementsFrom_of_nodeAt? (i + 1) hrest
      rw [Nat.add_assoc, Nat.add_comm 1] at hmem
      exact .inr hmem

end

/-- The elements that `elementsAt` lists with an address `a` are those that `a` leads to. -/
theorem mem_elementsAt {nodes : List Node} {a : Address} {e : Element} :
    (a, e) ∈ elementsAt nodes ↔ ∃ children, nodeAt? a nodes = some (.element e children) := by
  constructor
  · intro h
    obtain ⟨j, rest, rfl, hnode⟩ := Node.nodeAt?_of_mem_elementsFrom h
    rwa [Nat.zero_add]
  · rintro ⟨children, h⟩
    cases a with
    | nil => cases h
    | cons j rest =>
      have hmem := Node.mem_elementsFrom_of_nodeAt? 0 h
      rwa [Nat.zero_add] at hmem

mutual

/-- The addresses of the elements of a tree lead to them in `nodes`, in order. -/
theorem Node.map_nodeAt?_elementsBelow {nodes : List Node} {i : Nat} :
    ∀ {n : Node}, nodes[i]? = some n →
      n.elementsBelow.map (fun x => nodeAt? (i :: x.1) nodes) =
        n.elements.map fun x => some (.element x.1 x.2)
  | .element e children, h => by
    rw [elementsBelow, elements, List.map_cons, List.map_cons]
    refine List.cons_eq_cons.mpr ⟨h, ?_⟩
    rw [← map_nodeAt?_elementsFrom (List.drop_zero (l := children))]
    refine List.map_congr_left fun ⟨a, e'⟩ hmem => ?_
    -- the address goes on in the element
    obtain ⟨j, rest, rfl, -⟩ := nodeAt?_of_mem_elementsFrom hmem
    rw [nodeAt?_cons_cons, h]
    rfl
  | .text _, _ | .comment _, _ | .doctype _, _ => rfl

/-- The addresses of the elements of the trees from the position `i` on lead to them, in order. -/
theorem Node.map_nodeAt?_elementsFrom {nodes : List Node} {i : Nat} :
    ∀ {ns : List Node}, nodes.drop i = ns →
      (elementsFrom i ns).map (fun x => nodeAt? x.1 nodes) =
        (elementsOf ns).map fun x => some (.element x.1 x.2)
  | [], _ => rfl
  | n :: rest, h => by
    have hn : nodes[i]? = some n := by
      rw [← List.head?_drop, h]
      rfl
    have hrest : nodes.drop (i + 1) = rest := by
      rw [← List.tail_drop, h]
      rfl
    rw [elementsFrom, elementsOf, List.map_append, List.map_append, List.map_map,
      map_nodeAt?_elementsFrom hrest, ← map_nodeAt?_elementsBelow hn]
    rfl

end

/-- The addresses that `elementsAt` lists lead to the elements that `elementsOf` lists, in the same
    order. -/
theorem map_nodeAt?_elementsAt (nodes : List Node) :
    (elementsAt nodes).map (fun x => nodeAt? x.1 nodes) =
      (Node.elementsOf nodes).map fun x => some (.element x.1 x.2) :=
  Node.map_nodeAt?_elementsFrom List.drop_zero

/-! ### Changed elements -/

mutual

/-- A change `f` to the elements of a tree leaves their addresses. -/
theorem Node.elementsBelow_mapElements (f : Element → Element) :
    ∀ n : Node, (n.mapElements f).elementsBelow = n.elementsBelow.map fun x => (x.1, f x.2)
  | .element e children => by
    rw [mapElements, elementsBelow, elementsBelow, List.map_cons,
      elementsFrom_mapElementsOf f 0 children]
  | .text _ | .comment _ | .doctype _ => rfl

/-- A change `f` to the elements of a list of trees leaves their addresses. -/
theorem Node.elementsFrom_mapElementsOf (f : Element → Element) (i : Nat) :
    ∀ ns : List Node,
      elementsFrom i (mapElementsOf f ns) = (elementsFrom i ns).map fun x => (x.1, f x.2)
  | [] => rfl
  | n :: rest => by
    rw [mapElementsOf, elementsFrom, elementsFrom, List.map_append, elementsBelow_mapElements f n,
      elementsFrom_mapElementsOf f (i + 1) rest, List.map_map, List.map_map]
    rfl

end

/-! ### The first element of a kind -/

/-- The first member of a kind `p`, in a list `l` whose keys ascend, has the least key of all
    members of the kind. -/
theorem find?_map_fst_eq_some_iff {l : List (Address × Element)}
    (hl : (l.map Prod.fst).Pairwise Address.Before) {p : Address × Element → Bool} {a : Address} :
    (l.find? p).map Prod.fst = some a ↔
      (∃ e, (a, e) ∈ l ∧ p (a, e) = true) ∧ ∀ x ∈ l, p x = true → a = x.1 ∨ a.Before x.1 := by
  have hleast : ∀ {x}, l.find? p = some x → ∀ y ∈ l, p y = true →
      x.1 = y.1 ∨ x.1.Before y.1 := by
    intro x hx y hy hpy
    obtain ⟨-, before, after, rfl, hbefore⟩ := List.find?_eq_some_iff_append.mp hx
    rw [List.map_append, List.map_cons, List.pairwise_append, List.pairwise_cons] at hl
    rcases List.mem_append.mp hy with hy | hy
    -- what stands in front of the one that is found is not of the kind
    · have hnot := hbefore y hy
      rw [hpy] at hnot
      cases hnot
    · rcases List.mem_cons.mp hy with rfl | hy
      · exact .inl rfl
      · exact .inr (hl.2.1.1 _ (List.mem_map_of_mem hy))
  constructor
  · intro h
    obtain ⟨x, hx, rfl⟩ := Option.map_eq_some_iff.mp h
    exact ⟨⟨x.2, List.mem_of_find?_eq_some hx, List.find?_some hx⟩, hleast hx⟩
  · rintro ⟨⟨e, hmem, he⟩, hall⟩
    obtain ⟨x, hx⟩ := Option.isSome_iff_exists.mp (List.find?_isSome.mpr ⟨(a, e), hmem, he⟩)
    rw [hx]
    -- of the member and the one that is found, neither stands before the other
    rcases hall x (List.mem_of_find?_eq_some hx) (List.find?_some hx) with rfl | hbefore
    · rfl
    · rcases hleast hx (a, e) hmem he with rfl | hafter
      · rfl
      · exact absurd hafter hbefore.asymm

/-- The address that is found for a kind `p` leads to an element of the kind and stands before all
    other addresses that do. There is no more than one such address. -/
theorem findAddress?_eq_some_iff {p : Element → Bool} {nodes : List Node} {a : Address} :
    findAddress? p nodes = some a ↔
      (∃ e children, nodeAt? a nodes = some (.element e children) ∧ p e = true) ∧
        ∀ b e children, nodeAt? b nodes = some (.element e children) → p e = true →
          a = b ∨ a.Before b := by
  rw [findAddress?, find?_map_fst_eq_some_iff (sorted_elementsAt nodes)]
  simp only [Prod.forall, mem_elementsAt]
  constructor
  · rintro ⟨⟨e, ⟨children, hnode⟩, hp⟩, hall⟩
    exact ⟨⟨e, children, hnode, hp⟩, fun b e' children' hnode' hp' =>
      hall b e' ⟨children', hnode'⟩ hp'⟩
  · rintro ⟨⟨e, children, hnode, hp⟩, hall⟩
    refine ⟨⟨e, ⟨children, hnode⟩, hp⟩, ?_⟩
    rintro b e' ⟨children', hnode'⟩ hp'
    exact hall b e' children' hnode' hp'

/-- The element that the found address leads to is the first one of the kind `p` that a walk over
    `nodes` meets. -/
theorem nodeAt?_findAddress? (p : Element → Bool) (nodes : List Node) :
    (findAddress? p nodes).bind (nodeAt? · nodes) =
      ((Node.elementsOf nodes).find? fun x => p x.1).map fun x => .element x.1 x.2 := by
  -- both sides look for the first node of the kind among the elements in order
  have hfound := congrArg (List.find? fun o => o.any fun n => n.element?.any p)
    (map_nodeAt?_elementsAt nodes)
  rw [List.find?_map, List.find?_map] at hfound
  have hkind : ∀ x ∈ elementsAt nodes, ((fun o => o.any fun n => n.element?.any p) ∘
      fun x : Address × Element => nodeAt? x.1 nodes) x = p x.2 := by
    intro x hx
    show (nodeAt? x.1 nodes).any _ = _
    obtain ⟨children, hnode⟩ := mem_elementsAt.mp hx
    rw [hnode]
    rfl
  rw [List.find?_congr hkind] at hfound
  have hjoined := congrArg (Option.bind · id) hfound
  simp only [Option.bind_map, Function.comp_def, id] at hjoined
  rw [findAddress?, Option.bind_map]
  exact hjoined.trans Option.map_eq_bind.symm

end PagePatch.Html
