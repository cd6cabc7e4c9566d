import PagePatch.Html.Store

namespace PagePatch.Html

/-!
# Growing trees

While a piece of markup is read at the end of a slot, that slot gets further children, all of them
new, and nothing else of what was there before changes.

* `Shows` — slots that hold given trees;
* `Grown` — a store in which a slot got further trees at its end;
* `Grown.trans`, `Grown.inside` — one growth after another one, and growth inside a new element;
* `grown_appendChars` — the growth by a text.
-/

/-! ### Slots and trees -/

/-- The slots `ns` of the store `s` hold the trees `nodes`. None of them comes before the slot
    `low`, nor a child before the element it stands in, so that trees can be read off them level by
    level. -/
inductive Shows (s : Store) : Nat → List Nat → List Node → Prop
  | nil (low : Nat) : Shows s low [] []
  | text {low n : Nat} {slot : Slot} {t : String} {ns : List Nat} {nodes : List Node}
    (hlow : low ≤ n) (hslot : s.slot? n = some slot) (hitem : slot.item = .text t)
    (rest : Shows s low ns nodes) : Shows s low (n :: ns) (.text t :: nodes)
  | element {low n : Nat} {slot : Slot} {e : Element} {inner : List Node} {ns : List Nat}
    {nodes : List Node} (hlow : low ≤ n) (hslot : s.slot? n = some slot)
    (hitem : slot.item = .element e) (hregion : e.region = none)
    (children : Shows s (n + 1) slot.children.reverse inner) (rest : Shows s low ns nodes) :
    Shows s low (n :: ns) (.element e inner :: nodes)

namespace Store

/-- The tree in the slot `n`, read for a number of `levels` below it; the root holds none. -/
def tree? (s : Store) (levels n : Nat) : Option Node :=
  match (s.slot? n).map Slot.item with
  | some (.element e) => some (.element { e with region := none } (s.childTrees levels n))
  | some (.text t) => some (.text t)
  | some (.comment t) => some (.comment t)
  | some (.doctype name) => some (.doctype name)
  | some .root | none => none

/-- The trees below the slot `n` are those in its children, which are kept with the last one
    first. -/
theorem childTrees_succ (s : Store) (levels n : Nat) :
    s.childTrees (levels + 1) n = (s.childrenOf n).reverse.filterMap (s.tree? levels) :=
  rfl

/-- A slot that is there has a number `n` below the number of slots. -/
theorem lt_size_of_slot? {s : Store} {n : Nat} {slot : Slot} (h : s.slot? n = some slot) :
    n < s.slots.size :=
  (Array.getElem?_eq_some_iff.mp h).1

end Store

namespace Shows

variable {s s' : Store} {low : Nat} {ns ns' : List Nat} {nodes nodes' : List Node}

/-- The trees `nodes` are those that are read off the slots, given levels enough for all slots to
    come. -/
theorem filterMap_tree? (h : Shows s low ns nodes) {levels : Nat}
    (hlevels : s.slots.size ≤ low + levels) : ns.filterMap (s.tree? levels) = nodes := by
  induction h generalizing levels with
  | nil => rfl
  | text hlow hslot hitem rest ih =>
    rw [List.filterMap_cons, Store.tree?, hslot, Option.map_some, hitem, ih hlevels]
  | @element low n slot e inner ns nodes hlow hslot hitem hregion children rest ihChildren ihRest =>
    have hlt := Store.lt_size_of_slot? hslot
    obtain ⟨levels, rfl⟩ : ∃ more, levels = more + 1 := ⟨levels - 1, by omega⟩
    have hinner : s.childTrees (levels + 1) n = inner := by
      -- the children have higher numbers, so one level less is enough for them
      rw [Store.childTrees_succ, Store.childrenOf, hslot]
      exact ihChildren (by omega)
    have he : { e with region := none } = e := by rw [← hregion]
    rw [List.filterMap_cons, Store.tree?, hslot, Option.map_some, hitem, ihRest hlevels, hinner]
    dsimp only
    rw [he]

/-- A store `s'` that holds the same in the slots from `low` on shows the same. -/
theorem of_agree (h : Shows s low ns nodes)
    (hagree : ∀ n slot, low ≤ n → s.slot? n = some slot → s'.slot? n = some slot) :
    Shows s' low ns nodes := by
  induction h with
  | nil => exact .nil _
  | text hlow hslot hitem rest ih =>
    exact .text hlow (hagree _ _ hlow hslot) hitem (ih hagree)
  | element hlow hslot hitem hregion children rest ihChildren ihRest =>
    refine .element hlow (hagree _ _ hlow hslot) hitem hregion ?_ (ihRest hagree)
    exact ihChildren fun n slot hn => hagree n slot (by omega)

/-- The bound `low` may be lower. -/
theorem mono (h : Shows s low ns nodes) {low' : Nat} (hlow' : low' ≤ low) :
    Shows s low' ns nodes := by
  induction h generalizing low' with
  | nil => exact .nil _
  | text hlow hslot hitem rest ih => exact .text (by omega) hslot hitem (ih hlow')
  | element hlow hslot hitem hregion children rest _ ih =>
    exact .element (by omega) hslot hitem hregion children (ih hlow')

/-- The trees `nodes` and, behind them, the trees `nodes'`. -/
theorem append (h : Shows s low ns nodes) (h' : Shows s low ns' nodes') :
    Shows s low (ns ++ ns') (nodes ++ nodes') := by
  induction h with
  | nil => exact h'
  | text hlow hslot hitem rest ih => exact .text hlow hslot hitem (ih h')
  | element hlow hslot hitem hregion children rest _ ih =>
    exact .element hlow hslot hitem hregion children (ih h')

end Shows

/-! ### Growth -/

/-- The store `s'` is the store `s`, in which the slot `p` got further children `ns` at its end,
    which show the trees `nodes`. -/
structure Grown (s s' : Store) (p : Nat) (ns : List Nat) (nodes : List Node) : Prop where
  /-- The slot was there before. -/
  there : p < s.slots.size
  /-- It has the new children at its end. -/
  parent : ∀ slot, s.slot? p = some slot →
    s'.slot? p = some { slot with children := ns.reverse ++ slot.children }
  /-- No slot is lost. -/
  size : s.slots.size ≤ s'.slots.size
  /-- The other slots that were there are as they were. -/
  others : ∀ n, n < s.slots.size → n ≠ p → s'.slot? n = s.slot? n
  /-- The new children, all of them in new slots, show the trees. -/
  shows : Shows s' s.slots.size ns nodes

namespace Grown

variable {s s' s'' : Store} {p : Nat} {ns ns' : List Nat} {nodes nodes' : List Node}

/-- The slot `p` has grown by nothing where nothing was added. -/
protected theorem refl (h : p < s.slots.size) : Grown s s p [] [] where
  there := h
  parent := fun _ h => h
  size := Nat.le_refl _
  others := fun _ _ _ => rfl
  shows := .nil _

/-- The slot `p` that has grown can grow again, by what comes behind. -/
protected theorem trans (h : Grown s s' p ns nodes) (h' : Grown s' s'' p ns' nodes') :
    Grown s s'' p (ns ++ ns') (nodes ++ nodes') where
  there := h.there
  parent := by
    intro slot hslot
    rw [h'.parent _ (h.parent slot hslot), List.reverse_append, List.append_assoc]
  size := Nat.le_trans h.size h'.size
  others := by
    intro n hn hne
    rw [h'.others n (Nat.lt_of_lt_of_le hn h.size) hne, h.others n hn hne]
  shows := by
    refine (h.shows.of_agree fun n slot hn hslot => ?_).append (h'.shows.mono h.size)
    have hne : n ≠ p := by
      have hthere := h.there
      omega
    rw [h'.others n (Store.lt_size_of_slot? hslot) hne, hslot]

/-- The slot `p` that has grown is still there. -/
theorem lt_size (h : Grown s s' p ns nodes) : p < s'.slots.size :=
  Nat.lt_of_lt_of_le h.there h.size

/-- The children of the slot `p` are the new ones, with the last one first, and then those that it
    had. -/
theorem childrenOf (h : Grown s s' p ns nodes) :
    s'.childrenOf p = ns.reverse ++ s.childrenOf p := by
  obtain ⟨slot, hslot⟩ : ∃ slot, s.slot? p = some slot :=
    ⟨_, Array.getElem?_eq_getElem h.there⟩
  rw [Store.childrenOf, Store.childrenOf, h.parent slot hslot, hslot]
  rfl

end Grown

/-! ### New slots -/

namespace Store

/-- A new slot with `item` at the end of the slot `p`. -/
def addChild (s : Store) (p : Nat) (item : Item) : Store :=
  (s.create item).1.append p s.slots.size

variable {s : Store} {p : Nat}

/-- A change `f` to the slot `n` is seen in this slot alone. -/
theorem slot?_modify (s : Store) (n m : Nat) (f : Slot → Slot) :
    (s.modify n f).slot? m = if n = m then (s.slot? m).map f else s.slot? m := by
  rw [slot?, slot?, modify, Array.getElem?_modify]

/-- The change `f` of the slot `n` adds no slot. -/
theorem size_modify (s : Store) (n : Nat) (f : Slot → Slot) :
    (s.modify n f).slots.size = s.slots.size :=
  Array.size_modify

/-- The new slot for `item` stands in no other one when it is put in its place, so that it need not
    be taken out of one first. -/
theorem addChild_eq (s : Store) (p : Nat) (item : Item) : s.addChild p item =
    ((s.create item).1.modify p fun slot =>
      { slot with children := s.slots.size :: slot.children }).modify s.slots.size
        fun slot => { slot with parent := some p } := by
  have hparent : (s.create item).1.parent? s.slots.size = none := by
    simp [create, parent?, slot?]
  rw [addChild, append, detach, hparent]

/-- There is one more slot after `addChild`. -/
theorem size_addChild (s : Store) (p : Nat) (item : Item) :
    (s.addChild p item).slots.size = s.slots.size + 1 := by
  rw [addChild_eq, size_modify, size_modify]
  exact Array.size_push _

/-- The new slot is empty, and stands in the slot `p`. -/
theorem slot?_addChild_new (hp : p < s.slots.size) (item : Item) :
    (s.addChild p item).slot? s.slots.size = some { item, parent := some p } := by
  have hne : p ≠ s.slots.size := Nat.ne_of_lt hp
  rw [addChild_eq, slot?_modify, if_pos rfl, slot?_modify, if_neg hne]
  simp [create, slot?]

/-- The slots other than the new one and `p` are as they were. -/
theorem slot?_addChild_of_ne {n : Nat} (hn : n < s.slots.size) (hne : n ≠ p) (item : Item) :
    (s.addChild p item).slot? n = s.slot? n := by
  rw [addChild_eq, slot?_modify, if_neg (Nat.ne_of_gt hn), slot?_modify, if_neg (Ne.symm hne)]
  simp [create, slot?, Array.getElem?_push, Nat.ne_of_lt hn]

/-- The slot `p` has one more child, at its end. -/
theorem slot?_addChild_parent (hp : p < s.slots.size) (item : Item) {slot : Slot}
    (hslot : s.slot? p = some slot) : (s.addChild p item).slot? p =
      some { slot with children := s.slots.size :: slot.children } := by
  have hcreate : (s.create item).1.slot? p = some slot := by
    rw [← hslot]
    simp [create, slot?, Array.getElem?_push, Nat.ne_of_lt hp]
  rw [addChild_eq, slot?_modify, if_neg (Nat.ne_of_gt hp), slot?_modify, if_pos rfl, hcreate]
  rfl

end Store

namespace Grown

variable {s s' : Store} {p : Nat} {ns : List Nat} {nodes : List Node}

/-- **What grows inside a new element is part of it.** The element `e` is put at the end of the slot
    `p`, and then its own slot grows by `nodes`: as seen from `p` this is growth by one tree. -/
theorem inside (hp : p < s.slots.size) {e : Element} (hregion : e.region = none)
    (h : Grown (s.addChild p (.element e)) s' s.slots.size ns nodes) :
    Grown s s' p [s.slots.size] [.element e nodes] where
  there := hp
  parent := by
    intro slot hslot
    have hne : p ≠ s.slots.size := Nat.ne_of_lt hp
    rw [h.others p (by rw [Store.size_addChild]; omega) hne, Store.slot?_addChild_parent hp _ hslot]
    rfl
  size := by
    have hsize := h.size
    rw [Store.size_addChild] at hsize
    omega
  others := by
    intro n hn hne
    rw [h.others n (by rw [Store.size_addChild]; omega) (Nat.ne_of_lt hn),
      Store.slot?_addChild_of_ne hn hne]
  shows := by
    have hslot := h.parent _ (Store.slot?_addChild_new hp (.element e))
    refine .element (Nat.le_refl _) hslot rfl hregion ?_ (.nil _)
    have hshows := h.shows
    rw [Store.size_addChild] at hshows
    simpa using hshows

/-- So is a new text `t`. -/
theorem text (hp : p < s.slots.size) (t : String) :
    Grown s (s.addChild p (.text t)) p [s.slots.size] [.text t] where
  there := hp
  parent := fun _ hslot => Store.slot?_addChild_parent hp _ hslot
  size := by
    rw [Store.size_addChild]
    omega
  others := fun _ hn hne => Store.slot?_addChild_of_ne hn hne _
  shows := .text (Nat.le_refl _) (Store.slot?_addChild_new hp _) rfl (.nil _)

end Grown

/-! ### Texts -/

/-- The text `s` as trees: one text node, or none if the text is empty. -/
def textNodes (s : List Char) : List Node :=
  if s = [] then [] else [.text (String.ofList s)]

namespace Store

/-- Whether the last child of the slot `p` is a text, to which further characters would be added. -/
def endsInText (s : Store) (p : Nat) : Bool :=
  (s.childrenOf p).head?.any s.isText

/-- The character `c` behind something else than a text begins a text. -/
theorem appendChar_of_not_endsInText {s : Store} {p : Nat} (h : s.endsInText p = false) (c : Char) :
    s.appendChar p c = s.addChild p (.text (String.singleton c)) := by
  have hfilter : (s.childrenOf p).head?.filter s.isText = none := by
    unfold endsInText at h
    cases hhead : (s.childrenOf p).head? with
    | none => rfl
    | some n =>
      rw [hhead] at h
      exact Option.filter_eq_none_iff.mpr fun m hm => by
        rw [← Option.some.inj hm]
        exact Bool.eq_false_iff.mp h
  rw [appendChar, hfilter]
  rfl

end Store

/-- The character `c` behind a text that was added goes on with it, so that the growth is by one
    longer text. -/
theorem Grown.appendChar {s s' : Store} {p n : Nat} {t : String}
    (h : Grown s s' p [n] [.text t]) (c : Char) :
    Grown s (s'.appendChar p c) p [n] [.text (t.push c)] := by
  obtain ⟨hlow, slot, hslot, hitem⟩ : s.slots.size ≤ n ∧ ∃ slot, s'.slot? n = some slot ∧
      slot.item = .text t := by
    cases h.shows with
    | text hlow hslot hitem => exact ⟨hlow, _, hslot, hitem⟩
  have hhead : (s'.childrenOf p).head? = some n := by rw [h.childrenOf]; rfl
  have htext : s'.isText n = true := by rw [Store.isText, hslot, Option.map_some, hitem]
  have happend : s'.appendChar p c = s'.extendText n c := by
    -- the text is the last child, so the character is put into it
    rw [Store.appendChar, hhead, Option.filter_some, htext]
    rfl
  have hne : ∀ m, m < s.slots.size → n ≠ m := fun m hm => by omega
  rw [happend]
  exact {
    there := h.there
    parent := fun slot hslot => by
      rw [Store.extendText, Store.slot?_modify, if_neg (hne p h.there), h.parent slot hslot]
    size := by
      rw [Store.extendText, Store.size_modify]
      exact h.size
    others := fun m hm hmp => by
      rw [Store.extendText, Store.slot?_modify, if_neg (hne m hm), h.others m hm hmp]
    shows := by
      obtain ⟨item, parent, children, content⟩ := slot
      obtain rfl : item = .text t := hitem
      have hnew : (s'.extendText n c).slot? n =
          some ⟨.text (t.push c), parent, children, content⟩ := by
        rw [Store.extendText, Store.slot?_modify, if_pos rfl, hslot]
        rfl
      exact .text hlow hnew rfl (.nil _) }

/-- **Characters behind something else grow to one text,** however many `cs` has. -/
theorem grown_appendChars {s : Store} {p : Nat} (hp : p < s.slots.size)
    (hend : s.endsInText p = false) (cs : List Char) :
    ∃ ns, Grown s (cs.foldl (fun s c => s.appendChar p c) s) p ns (textNodes cs) := by
  cases cs with
  | nil => exact ⟨[], .refl hp⟩
  | cons c cs =>
    -- the first character makes the text that the others go on with
    have hall : ∀ (cs : List Char) (s' : Store) (t : String),
        Grown s s' p [s.slots.size] [.text t] →
        Grown s (cs.foldl (fun s c => s.appendChar p c) s') p [s.slots.size]
          [.text (t ++ String.ofList cs)] := by
      intro cs
      induction cs with
      | nil =>
        intro s' t h
        have htext : t ++ String.ofList [] = t := String.append_empty
        rwa [htext]
      | cons x cs ih =>
        intro s' t h
        have htext : t ++ String.ofList (x :: cs) = t.push x ++ String.ofList cs := by
          rw [← String.toList_inj]
          simp
        rw [htext]
        exact ih _ _ (h.appendChar x)
    refine ⟨[s.slots.size], ?_⟩
    have hfirst : Grown s (s.appendChar p c) p [s.slots.size] [.text (String.singleton c)] := by
      rw [Store.appendChar_of_not_endsInText hend]
      exact .text hp _
    have htext : textNodes (c :: cs) = [.text (String.singleton c ++ String.ofList cs)] := by
      rw [textNodes, if_neg (List.cons_ne_nil c cs)]
      congr 2
      rw [← String.toList_inj]
      simp
    rw [htext]
    exact hall cs _ _ hfirst

end PagePatch.Html
