import PagePatch.Proofs.Html.First

namespace PagePatch.Html

/-!
# Siblings and what stands around them

A node of a list of trees stands among siblings, and the rest of the trees stands around those. A
change among the siblings leaves what stands around them.

* `Context` — what stands around a list of siblings, and `Context.fill` — the trees with given
  siblings;
* `exists_context` — every node stands among siblings in a context;
* `parent?` — what a node stands in, and `Context.parent?_fill` — which is read off its context;
* `Context.editAt_fill`, `Context.editAt_here` — changing a node where it stands;
* `Cursor` — a node in trees that are changed one node at a time, and `Context.foldl_insertBefore`
  and its siblings — where a sequence of such changes ends.
-/

/-- What stands around a list of siblings: the trees with a hole in them, in which the siblings
    stand; `fill` puts them there. -/
inductive Context where
  /-- The siblings are the trees themselves. -/
  | top
  /-- The siblings stand in an element, or further down in it. -/
  | within (before : List Node) (e : Element) (inner : Context) (after : List Node)

namespace Context

/-- The trees that have `siblings` in the hole of the context. -/
def fill : Context → List Node → List Node
  | top, siblings => siblings
  | within before e inner after, siblings => before ++ .element e (inner.fill siblings) :: after

/-- The address of the parent of the siblings; it is empty for `top`, where they are the trees
    themselves. -/
def address : Context → Address
  | top => []
  | within before _ inner _ => before.length :: inner.address

/-! ### Addresses -/

/-- A change `f` among the siblings, at an address `a` that begins there, leaves what stands around
    them. -/
theorem editAt_fill (c : Context) (f : Node → List Node) {a : Address} (ha : a ≠ [])
    (siblings : List Node) :
    editAt f (c.address ++ a) (c.fill siblings) = c.fill (editAt f a siblings) := by
  induction c with
  | top => rfl
  | within before e inner after ih =>
    show editAt f (before.length :: (inner.address ++ a)) _ = _
    rw [fill, editAt_within before after f (by simp [ha]) e, ih, fill]

/-- A change `f` of the node `n`, which stands between the siblings `left` and `right`. -/
theorem editAt_here (c : Context) (f : Node → List Node) (left : List Node) (n : Node)
    (right : List Node) :
    editAt f (c.address ++ [left.length]) (c.fill (left ++ n :: right)) =
      c.fill (left ++ f n ++ right) := by
  rw [c.editAt_fill f (List.cons_ne_nil _ _), Html.editAt_here]

end Context

/-- Every node that an address `a` leads to stands among siblings, with a context `c` around them,
    and the address is made of the two. -/
theorem exists_context {a : Address} {nodes : List Node} {n : Node} (h : nodeAt? a nodes = some n) :
    ∃ (c : Context) (left right : List Node),
      nodes = c.fill (left ++ n :: right) ∧ a = c.address ++ [left.length] := by
  induction a generalizing nodes with
  | nil => cases h
  | cons i rest ih =>
    cases rest with
    | nil =>
      have hi : nodes[i]? = some n := h
      obtain ⟨hlt, -⟩ := List.getElem?_eq_some_iff.mp hi
      refine ⟨.top, nodes.take i, nodes.drop (i + 1), eq_take_cons_drop hi, ?_⟩
      rw [List.length_take_of_le (by omega)]
      rfl
    | cons j rest =>
      -- the node on the way is an element, whose children hold the context further down
      rw [nodeAt?_cons_cons] at h
      obtain ⟨x, hx, hn⟩ := Option.bind_eq_some_iff.mp h
      obtain ⟨e, children, rfl⟩ := Node.exists_element_of_nodeAt? hn
      obtain ⟨c, left, right, hchildren, haddress⟩ := ih hn
      obtain ⟨hlt, -⟩ := List.getElem?_eq_some_iff.mp hx
      refine ⟨.within (nodes.take i) e c (nodes.drop (i + 1)), left, right, ?_, ?_⟩
      · rw [Context.fill, ← hchildren]
        exact eq_take_cons_drop hx
      · rw [haddress, Context.address, List.length_take_of_le (by omega)]
        rfl

/-! ### Parents -/

/-- What a node of a list of trees stands in, as `parent?` finds it. -/
inductive Parent where
  /-- The list itself: the node is one of the trees. -/
  | trees
  /-- The element `e`: the node is one of its children. -/
  | element (e : Element)
  deriving DecidableEq, Repr

/-- What the node at the address `a` stands in; `none` if `a` leads nowhere, or if what the rest of
    the address leads to is no element. -/
def parent? (a : Address) (nodes : List Node) : Option Parent :=
  (nodeAt? a nodes).bind fun _ =>
    match a.dropLast with
    | [] => some .trees
    | i :: rest => ((nodeAt? (i :: rest) nodes).bind Node.element?).map .element

/-- The parent of the siblings in a context: the innermost element of `c`, or the trees. -/
def Context.parent : Context → Parent
  | top => .trees
  | within _ e top _ => .element e
  | within _ _ (within before e inner after) _ => (within before e inner after).parent

/-- In a context that is not `top` the address of the siblings leads to their parent. -/
theorem Context.element?_fill (before : List Node) (e : Element) (inner : Context)
    (after siblings : List Node) :
    (((nodeAt? (within before e inner after).address
      ((within before e inner after).fill siblings)).bind Node.element?).map Parent.element) =
      some (within before e inner after).parent := by
  induction inner generalizing before e after with
  | top =>
    show (((nodeAt? [before.length] _).bind Node.element?).map Parent.element) = _
    rw [fill, nodeAt?_here]
    rfl
  | within before' e' inner' after' ih =>
    -- the way down goes through the outer element, and the parent is that of the inner context
    show (((nodeAt? (before.length :: before'.length :: inner'.address) _).bind
      Node.element?).map Parent.element) = _
    rw [fill, nodeAt?_within _ _ (List.cons_ne_nil _ _)]
    exact ih before' e' after'

/-- **A place for every node.** A node among the siblings `left` and `right` stands in the parent of
    the context `c`; in particular it stands in something. -/
theorem Context.parent?_fill (c : Context) (left : List Node) (n : Node) (right : List Node) :
    parent? (c.address ++ [left.length]) (c.fill (left ++ n :: right)) = some c.parent := by
  have hnode : nodeAt? (c.address ++ [left.length]) (c.fill (left ++ n :: right)) = some n := by
    induction c with
    | top => exact nodeAt?_here left n right
    | within before e inner after ih =>
      show nodeAt? (before.length :: (inner.address ++ [left.length])) _ = _
      rw [fill, nodeAt?_within _ _ (by simp), ih]
  rw [parent?, hnode, Option.bind_some, List.dropLast_concat]
  cases c with
  | top => rfl
  | within before e inner after => exact element?_fill before e inner after _

/-! ### Elements -/

/-- The elements among the `siblings` are elements of the trees `c.fill siblings`. -/
theorem Context.elementsIn_subset_fill (c : Context) (siblings : List Node) :
    Node.elementsIn siblings ⊆ Node.elementsIn (c.fill siblings) := by
  induction c with
  | top => exact List.Subset.refl _
  | within before e inner after ih =>
    intro x hx
    rw [fill, Node.elementsIn_append, Node.elementsIn_element]
    have hinner := ih hx
    simp [hinner]

/-- An element `e` of the trees stands among the `siblings`, or is there whatever the siblings
    are. -/
theorem Context.mem_elementsOf_fill (c : Context) {siblings : List Node} {e : Element}
    {children : List Node} (h : (e, children) ∈ Node.elementsOf (c.fill siblings))
    (others : List Node) :
    e ∈ Node.elementsIn (c.fill others) ∨ (e, children) ∈ Node.elementsOf siblings := by
  induction c with
  | top => exact .inr h
  | within before around inner after ih =>
    rw [fill, Node.elementsOf_append, Node.elementsOf_element] at h
    rw [fill, Node.elementsIn_append, Node.elementsIn_element]
    simp only [List.mem_append, List.mem_cons] at h ⊢
    rcases h with hbefore | (heq | hinner) | hafter
    · exact .inl (.inl (List.mem_map_of_mem hbefore))
    · cases heq
      exact .inl (.inr (.inl (.inl rfl)))
    · rcases ih hinner with hin | hin
      · exact .inl (.inr (.inl (.inr hin)))
      · exact .inr hin
    · exact .inl (.inr (.inr (List.mem_map_of_mem hafter)))

/-! ### One node at a time -/

/-- Trees `nodes` that are changed one node at a time, and the `address` of the node that is to be
    changed next. -/
structure Cursor where
  /-- The trees as they are by now. -/
  nodes : List Node
  /-- Where the node stands in them. -/
  address : Address

namespace Cursor

/-- Puts the node `n` in front of the one that the cursor is on. That one stands a place further on
    now. -/
def insertBefore (c : Cursor) (n : Node) : Cursor where
  nodes := editAt (fun m => [n, m]) c.address c.nodes
  address := c.address.shift 1

/-- Puts the node `n` behind the one that the cursor is on, and moves on to it. -/
def insertAfter (c : Cursor) (n : Node) : Cursor where
  nodes := editAt (fun m => [m, n]) c.address c.nodes
  address := c.address.shift 1

/-- Takes out the node that the cursor `c` is on, which leaves no cursor. -/
def detach (c : Cursor) : List Node :=
  editAt (fun _ => []) c.address c.nodes

/-- Adds the node `n` behind the children of the one that the cursor is on. -/
def append (c : Cursor) (n : Node) : Cursor where
  nodes := editAt (fun m => [m.withChildren (m.children ++ [n])]) c.address c.nodes
  address := c.address

/-- Takes out the first child of the node that the cursor `c` is on. -/
def detachFirst (c : Cursor) : Cursor where
  nodes := editAt (fun m => [m.withChildren m.children.tail]) c.address c.nodes
  address := c.address

end Cursor

theorem Address.shift_append (a : Address) (i k : Nat) :
    Address.shift k (a ++ [i]) = a ++ [i + k] := by
  induction a with
  | nil => rfl
  | cons j rest ih =>
    show Address.shift k (j :: (rest ++ [i])) = _
    rw [Address.shift_cons (by simp), ih, List.cons_append]

namespace Context

/-- The cursor on the node `n`, which stands between the siblings `left` and `right` in the context
    `c`. -/
def cursor (c : Context) (left : List Node) (n : Node) (right : List Node) : Cursor where
  nodes := c.fill (left ++ n :: right)
  address := c.address ++ [left.length]

variable (c : Context) (left : List Node) (n : Node) (right : List Node)

theorem insertBefore_cursor (m : Node) :
    (c.cursor left n right).insertBefore m = c.cursor (left ++ [m]) n right := by
  simp [cursor, Cursor.insertBefore, editAt_here, Address.shift_append]

theorem insertAfter_cursor (m : Node) :
    (c.cursor left n right).insertAfter m = c.cursor (left ++ [n]) m right := by
  simp [cursor, Cursor.insertAfter, editAt_here, Address.shift_append]

theorem detach_cursor : (c.cursor left n right).detach = c.fill (left ++ right) := by
  simp [cursor, Cursor.detach, editAt_here]

theorem append_cursor (e : Element) (children : List Node) (m : Node) :
    (c.cursor left (.element e children) right).append m =
      c.cursor left (.element e (children ++ [m])) right := by
  simp [cursor, Cursor.append, editAt_here, Node.withChildren, Node.children]

theorem detachFirst_cursor (e : Element) (children : List Node) :
    (c.cursor left (.element e children) right).detachFirst =
      c.cursor left (.element e children.tail) right := by
  simp [cursor, Cursor.detachFirst, editAt_here, Node.withChildren, Node.children]

/-- The nodes of `fragment`, put in front of `n` one after another, stand there in their order: each
    comes behind those before it. -/
theorem foldl_insertBefore (fragment : List Node) :
    fragment.foldl Cursor.insertBefore (c.cursor left n right) =
      c.cursor (left ++ fragment) n right := by
  induction fragment generalizing left with
  | nil => rw [List.foldl_nil, List.append_nil]
  | cons m rest ih =>
    rw [List.foldl_cons, insertBefore_cursor, ih, List.append_assoc, List.singleton_append]

/-- The nodes of `fragment`, put behind each other and the first one behind `n`, stand there in
    their order. -/
theorem nodes_foldl_insertAfter (fragment : List Node) :
    (fragment.foldl Cursor.insertAfter (c.cursor left n right)).nodes =
      c.fill (left ++ n :: fragment ++ right) := by
  -- the cursor is on the node that was put last, and all others are on its left
  induction fragment generalizing left n with
  | nil => simp [cursor]
  | cons m rest ih =>
    rw [List.foldl_cons, insertAfter_cursor, ih]
    simp

/-- The nodes of `fragment`, added to the children of an element one after another. -/
theorem foldl_append (e : Element) (children fragment : List Node) :
    fragment.foldl Cursor.append (c.cursor left (.element e children) right) =
      c.cursor left (.element e (children ++ fragment)) right := by
  induction fragment generalizing children with
  | nil => rw [List.foldl_nil, List.append_nil]
  | cons m rest ih =>
    rw [List.foldl_cons, append_cursor, ih, List.append_assoc, List.singleton_append]

/-- The `children` of an element, taken out one after another from the first one on, until none is
    left. -/
theorem iterate_detachFirst (e : Element) (children : List Node) :
    Cursor.detachFirst^[children.length] (c.cursor left (.element e children) right) =
      c.cursor left (.element e []) right := by
  induction children with
  | nil => rfl
  | cons m rest ih =>
    rw [List.length_cons, Function.iterate_succ_apply, detachFirst_cursor, List.tail_cons, ih]

end Context

end PagePatch.Html
