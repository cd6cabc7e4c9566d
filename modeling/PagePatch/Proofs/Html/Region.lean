import PagePatch.Html.Parse
import PagePatch.Proofs.Html.Edit

namespace PagePatch.Html

/-!
# Regions among trees

An element can stand for a region of the page. An edit exchanges the regions of one node, and what
it brings into a region can be seen if the element of the region can.

* `Node.regionsOf` — the regions whose elements are among trees, and `Edited.regionsOf` — what
  becomes of them in an edit;
* `regionsOf_parsePage`, `regionsOf_parseFragment` — what is read has no regions;
* `Element.Alike` — elements of one name that stand for one region;
* `Placed` — trees that show what is in a region, and `Placed.write_edited` — what they show.
-/

namespace Node

/-- The regions whose elements are among the trees `nodes`, or anywhere in them, in document
    order. -/
def regionsOf (nodes : List Node) : List Region :=
  (elementsIn nodes).filterMap Element.region

@[simp] theorem regionsOf_nil : regionsOf [] = [] := rfl

@[simp] theorem regionsOf_append (ns ms : List Node) :
    regionsOf (ns ++ ms) = regionsOf ns ++ regionsOf ms := by
  simp [regionsOf]

@[simp] theorem regionsOf_element (e : Element) (children rest : List Node) :
    regionsOf (.element e children :: rest) =
      e.region.toList ++ regionsOf children ++ regionsOf rest := by
  rw [regionsOf, elementsIn_element]
  cases h : e.region <;> simp [regionsOf, h]

/-- A region `r` is among `nodes` if one of their elements stands for it. -/
theorem mem_regionsOf {r : Region} {nodes : List Node} :
    r ∈ regionsOf nodes ↔ ∃ e ∈ elementsIn nodes, e.region = some r :=
  List.mem_filterMap

/-- The regions below an element `x` of the trees are among the trees. -/
theorem regionsOf_subset {x : Element × List Node} {nodes : List Node}
    (h : x ∈ elementsOf nodes) : regionsOf x.2 ⊆ regionsOf nodes := by
  intro r hr
  obtain ⟨e, he, her⟩ := mem_regionsOf.mp hr
  obtain ⟨y, hy, rfl⟩ := List.mem_map.mp he
  exact mem_regionsOf.mpr ⟨y.1, List.mem_map_of_mem (elementsOf_subset h hy), her⟩

end Node

/-- Elements `e` and `e'` with one name, in one vocabulary, that stand for one region or for none.
    Their attributes can differ. -/
structure Element.Alike (e e' : Element) : Prop where
  region : e.region = e'.region
  name : e.name = e'.name
  space : e.space = e'.space

/-- Elements that are `Alike` both have content, or both have none. -/
theorem Element.Alike.isVoid {e e' : Element} (h : e.Alike e') : e.isVoid = e'.isVoid := by
  rw [Element.isVoid, h.name, h.space, Element.isVoid]

/-- Trees whose elements are changed to others that are `Alike` have the same regions. -/
theorem Node.regionsOf_mapElementsOf {f : Element → Element} (hf : ∀ e, (f e).Alike e)
    (nodes : List Node) : Node.regionsOf (mapElementsOf f nodes) = Node.regionsOf nodes := by
  have hregion : Element.region ∘ f = Element.region := funext fun e => (hf e).region
  rw [regionsOf, elementsIn_mapElementsOf, List.filterMap_map, hregion, regionsOf]

/-- An edit exchanges the regions of the node `n`, and leaves those in front of it and behind it. -/
theorem Edited.regionsOf {n : Node} {new ns ns' : List Node} (h : Edited n new ns ns') :
    ∃ before after, Node.regionsOf ns = before ++ Node.regionsOf [n] ++ after ∧
      Node.regionsOf ns' = before ++ Node.regionsOf new ++ after := by
  obtain ⟨before, after, hold, hnew⟩ := h.elementsIn
  refine ⟨before.filterMap Element.region, after.filterMap Element.region, ?_, ?_⟩
  · rw [Node.regionsOf, hold, List.filterMap_append, List.filterMap_append]
    rfl
  · rw [Node.regionsOf, hnew, List.filterMap_append, List.filterMap_append]
    rfl

/-- The region that the node `n` itself stands for, apart from those in it. -/
def Node.region? (n : Node) : Option Region :=
  n.element?.bind Element.region

/-- Trees one of which stands for the region `r` still have such a tree after an edit that puts `n'`
    in the place of `n`, if `n'` stands for what `n` stood for. -/
theorem Edited.exists_region? {n n' : Node} {ns ns' : List Node} (h : Edited n [n'] ns ns')
    (hn : n'.region? = n.region?) {r : Region} (hr : ∃ m ∈ ns, m.region? = some r) :
    ∃ m ∈ ns', m.region? = some r := by
  obtain ⟨m, hm, hmr⟩ := hr
  cases h with
  | top before after =>
    rcases List.mem_append.mp hm with hm | hm
    · exact ⟨m, by simp [hm], hmr⟩
    rcases List.mem_cons.mp hm with rfl | hm
    · exact ⟨n', by simp, hn.trans hmr⟩
    · exact ⟨m, by simp [hm], hmr⟩
  | within before after e hedit =>
    rcases List.mem_append.mp hm with hm | hm
    · exact ⟨m, by simp [hm], hmr⟩
    rcases List.mem_cons.mp hm with rfl | hm
    · exact ⟨_, List.mem_append_right _ List.mem_cons_self, hmr⟩
    · exact ⟨m, by simp [hm], hmr⟩

/-- Trees that stand for the region `r` have it among them. -/
theorem Node.mem_regionsOf_of_region? {r : Region} {nodes : List Node}
    (h : ∃ n ∈ nodes, n.region? = some r) : r ∈ Node.regionsOf nodes := by
  obtain ⟨n, hn, hr⟩ := h
  obtain ⟨before, after, rfl⟩ := List.append_of_mem hn
  cases n with
  | element e children =>
    have he : e.region = some r := hr
    simp [he]
  | text s | comment s | doctype name => cases hr

/-- The elements that a text is read as stand for no region: a region is marked only afterwards, by
    `markRegion`. -/
theorem Store.regionsOf_childTrees (s : Store) (levels n : Nat) :
    Node.regionsOf (s.childTrees levels n) = [] := by
  induction levels generalizing n with
  | zero => rfl
  | succ levels ih =>
    rw [childTrees]
    induction (s.childrenOf n).reverse with
    | nil => rfl
    | cons m rest ih' =>
      rw [List.filterMap_cons]
      split
      · exact ih'
      · rename_i node hnode
        have hfirst : Node.regionsOf [node] = [] := by
          split at hnode
          -- an element is given no region, and other nodes have none
          · cases hnode
            simp [ih]
          all_goals cases hnode
          all_goals rfl
        rw [← List.singleton_append, Node.regionsOf_append, hfirst, ih']
        rfl

/-- A whole page `s` that is read has no regions. -/
theorem regionsOf_parsePage (s : String) : Node.regionsOf (parsePage s) = [] :=
  Store.regionsOf_childTrees _ _ _

/-- A piece `s` of a page has none. -/
theorem regionsOf_parseFragment (s : String) : Node.regionsOf (parseFragment s) = [] := by
  unfold parseFragment
  dsimp only
  split
  · exact Store.regionsOf_childTrees _ _ _
  · rfl

/-! ### What is in a region can be seen -/

/-- Trees in which an element that stands for the region `r` has its name, and does not stand in an
    element that has no content. Then what is in the region is written with the trees. -/
def Placed (r : Region) (nodes : List Node) : Prop :=
  ∀ x ∈ Node.elementsOf nodes,
    (x.1.region = some r → x.1.name = r.name) ∧ (x.1.isVoid = true → r ∉ Node.regionsOf x.2)

namespace Placed

variable {r : Region}

theorem append_iff {ns ms : List Node} : Placed r (ns ++ ms) ↔ Placed r ns ∧ Placed r ms := by
  unfold Placed
  rw [Node.elementsOf_append, List.forall_mem_append]

theorem element_iff {e : Element} {children : List Node} :
    Placed r [.element e children] ↔
      (e.region = some r → e.name = r.name) ∧ (e.isVoid = true → r ∉ Node.regionsOf children) ∧
        Placed r children := by
  unfold Placed
  rw [Node.elementsOf_element, Node.elementsOf, List.append_nil, List.forall_mem_cons, and_assoc]

theorem cons_iff {n : Node} {rest : List Node} :
    Placed r (n :: rest) ↔ Placed r [n] ∧ Placed r rest := by
  rw [← List.singleton_append, append_iff]

/-- An element `e` that stands for the region `r` has its name. -/
theorem name_eq {nodes : List Node} (h : Placed r nodes) {e : Element}
    (he : e ∈ Node.elementsIn nodes) (hr : e.region = some r) : e.name = r.name := by
  obtain ⟨x, hx, rfl⟩ := List.mem_map.mp he
  exact (h x hx).1 hr

/-- Trees without the region `r` have nothing of it to place. -/
theorem of_not_mem {nodes : List Node} (h : r ∉ Node.regionsOf nodes) : Placed r nodes := by
  intro x hx
  constructor
  · intro hr
    exact absurd (Node.mem_regionsOf.mpr ⟨x.1, List.mem_map_of_mem hx, hr⟩) h
  · exact fun _ hr => h (Node.regionsOf_subset hx hr)

/-- Trees whose elements are changed to others that are `Alike`. -/
theorem mapElementsOf {f : Element → Element} (hf : ∀ e, (f e).Alike e) {nodes : List Node}
    (h : Placed r nodes) : Placed r (Node.mapElementsOf f nodes) := by
  intro x hx
  rw [Node.elementsOf_mapElementsOf] at hx
  obtain ⟨y, hy, rfl⟩ := List.mem_map.mp hx
  rw [(hf y.1).region, (hf y.1).name, (hf y.1).isVoid, Node.regionsOf_mapElementsOf hf]
  exact h y hy

/-- An element `e'` that is like the element `e`, with other content that has nothing of the region,
    or with the same content. -/
theorem renew {e e' : Element} (he : e'.Alike e) {children content : List Node}
    (h : Placed r [.element e children])
    (hcontent : r ∉ Node.regionsOf content ∨ content = children) :
    Placed r [.element e' content] := by
  rw [element_iff] at h ⊢
  rw [he.region, he.name, he.isVoid]
  rcases hcontent with hnone | rfl
  · exact ⟨h.1, fun _ => hnone, of_not_mem hnone⟩
  · exact h

/-- An edit that brings in nothing of the region `r` that was not in the node `n` before. -/
theorem edited {n : Node} {new ns ns' : List Node} (h : Edited n new ns ns')
    (hns : Placed r ns) (hnew : Placed r [n] → Placed r new)
    (hsub : Node.regionsOf new ⊆ Node.regionsOf [n]) : Placed r ns' := by
  induction h with
  | top before after =>
    rw [append_iff, cons_iff] at hns
    rw [append_iff, append_iff]
    exact ⟨⟨hns.1, hnew hns.2.1⟩, hns.2.2⟩
  | within before after e hedit ih =>
    rw [append_iff, cons_iff, element_iff] at hns
    obtain ⟨hbefore, ⟨hname, hvoid, hchildren⟩, hafter⟩ := hns
    rw [append_iff, cons_iff, element_iff]
    -- an element without content had nothing of the region in it before either
    refine ⟨hbefore, ⟨hname, fun hempty hr => hvoid hempty ?_, ih hchildren⟩, hafter⟩
    obtain ⟨first, last, hold, hnew'⟩ := hedit.regionsOf
    rw [hnew'] at hr
    rw [hold]
    simp only [List.mem_append] at hr ⊢
    exact hr.imp_left fun hr => hr.imp_right fun hr => hsub hr

/-- What stands in the place of the element of a region, or of an element around it, is seen: the
    markup of `new` is a part of the markup of all trees. -/
theorem write_edited {n : Node} {new ns ns' : List Node} (h : Edited n new ns ns')
    (hns : Placed r ns) (hr : r ∈ Node.regionsOf [n]) (raw : Bool) :
    ∃ before after raw', Node.writeAllIn raw false ns' =
      before ++ Node.writeAllIn raw' false new ++ after := by
  induction h generalizing raw with
  | top before after =>
    exact ⟨Node.writeAllIn raw false before, Node.writeAllIn raw false after, raw, by
      rw [Node.writeAllIn_append, Node.writeAllIn_append]⟩
  | @within before after e children children' hedit ih =>
    rw [append_iff, cons_iff, element_iff] at hns
    obtain ⟨-, ⟨-, hvoid, hchildren⟩, -⟩ := hns
    -- the region stands in the element on the way, which therefore has content
    have hmem : r ∈ Node.regionsOf children := by
      obtain ⟨first, last, hold, -⟩ := hedit.regionsOf
      rw [hold]
      simp [hr]
    have hopen : e.isVoid = false := by
      cases hempty : e.isVoid with
      | false => rfl
      | true => exact absurd hmem (hvoid hempty)
    obtain ⟨first, last, raw', hwrite⟩ := ih hchildren e.isRaw
    refine ⟨Node.writeAllIn raw false before ++ (e.startTag ++ first),
      last ++ e.endTag ++ Node.writeAllIn raw false after, raw', ?_⟩
    simp [Node.writeAllIn_append, Node.writeAllIn, Node.writeIn, hopen, hwrite,
      String.append_assoc]

end Placed

end PagePatch.Html
