import Mathlib.Data.List.Pairwise
import PagePatch.Html.Write
import PagePatch.Proofs.Html.Edit
import PagePatch.Proofs.Html.Flow

namespace PagePatch.Html

/-!
# Markup of boxes

Trees of boxes that differ have different markup: what is escaped in texts and values keeps them
apart from the tags around them.

* `flatMap_escapeTextChar_injective`, `flatMap_escapeValueChar_injective` — escaping loses nothing;
* `Flow.markup`, `writeAll_nodes` — the markup of boxes;
* `Flow.Closes` — what can stand behind such markup, and `Flow.markup_injective` — it tells the
  boxes.
-/

/-! ### Parts of texts -/

/-- A text that has no `p` in it is split from what follows in one way only, if what follows begins
    with `p` or is nothing. -/
theorem append_inj_of_head {p : Char} {a b k k' : List Char} (ha : p ∉ a) (hb : p ∉ b)
    (hk : ∀ c ∈ k.head?, c = p) (hk' : ∀ c ∈ k'.head?, c = p) (h : a ++ k = b ++ k') :
    a = b ∧ k = k' := by
  induction a generalizing b with
  | nil =>
    cases b with
    | nil => exact ⟨rfl, h⟩
    | cons y b =>
      have hy : y = p := hk y (by rw [List.nil_append] at h; rw [h]; rfl)
      exact absurd (by simp [hy]) hb
  | cons x a ih =>
    cases b with
    | nil =>
      have hx : x = p := hk' x (by rw [List.nil_append] at h; rw [← h]; rfl)
      exact absurd (by simp [hx]) ha
    | cons y b =>
      obtain ⟨rfl, hrest⟩ := List.cons.inj h
      rw [List.mem_cons, not_or] at ha hb
      obtain ⟨rfl, rfl⟩ := ih ha.2 hb.2 hrest
      exact ⟨rfl, rfl⟩

/-- Characters that are written one after the other by `f` can be told if each of them can be told
    whatever stands behind it. -/
theorem flatMap_injective {f : Char → List Char}
    (hf : ∀ c c' s s', f c ++ s = f c' ++ s' → c = c') (hne : ∀ c, f c ≠ []) :
    Function.Injective (List.flatMap f) := by
  intro s
  induction s with
  | nil =>
    intro s' h
    cases s' with
    | nil => rfl
    | cons c' s' =>
      rw [List.flatMap_nil, List.flatMap_cons] at h
      exact absurd (List.append_eq_nil_iff.mp h.symm).1 (hne c')
  | cons c s ih =>
    intro s' h
    cases s' with
    | nil =>
      rw [List.flatMap_nil, List.flatMap_cons] at h
      exact absurd (List.append_eq_nil_iff.mp h).1 (hne c)
    | cons c' s' =>
      rw [List.flatMap_cons, List.flatMap_cons] at h
      obtain rfl := hf c c' _ _ h
      rw [ih (List.append_cancel_left h)]

/-! ### Escaping -/

/-- A character `c` of text is told by how it is written, whatever stands behind it. -/
theorem escapeTextChar_inj {c c' : Char} {s s' : List Char}
    (h : escapeTextChar c ++ s = escapeTextChar c' ++ s') : c = c' := by
  unfold escapeTextChar at h
  split at h <;> split at h <;> grind [String.toList]

/-- A character `c` of a value is told in the same way. -/
theorem escapeValueChar_inj {c c' : Char} {s s' : List Char}
    (h : escapeValueChar c ++ s = escapeValueChar c' ++ s') : c = c' := by
  unfold escapeValueChar at h
  split at h <;> split at h <;> grind [String.toList]

/-- **Escaping a text loses nothing:** `escapeText` is this of its characters. -/
theorem flatMap_escapeTextChar_injective : Function.Injective (List.flatMap escapeTextChar) := by
  refine flatMap_injective (fun _ _ _ _ h => escapeTextChar_inj h) fun c => ?_
  unfold escapeTextChar
  split <;> simp

/-- **Nor does escaping a value,** as `escapeValue` does. -/
theorem flatMap_escapeValueChar_injective :
    Function.Injective (List.flatMap escapeValueChar) := by
  refine flatMap_injective (fun _ _ _ _ h => escapeValueChar_inj h) fun c => ?_
  unfold escapeValueChar
  split <;> simp

/-- No tag begins in the escaped text `s`. -/
theorem lt_not_mem_escapeText (s : List Char) : '<' ∉ s.flatMap escapeTextChar := by
  refine Xml.not_mem_flatMap (fun c => ?_) s
  unfold escapeTextChar
  split
  · decide
  · decide
  · decide
  · decide
  · rename_i hlt _
    exact fun hmem => hlt (List.mem_singleton.mp hmem).symm

/-- No quote is left in the escaped value `s`. -/
theorem quote_not_mem_escapeValue (s : List Char) : '"' ∉ s.flatMap escapeValueChar := by
  refine Xml.not_mem_flatMap (fun c => ?_) s
  unfold escapeValueChar
  split
  · decide
  · decide
  · decide
  · rename_i hquote
    exact fun hmem => hquote (List.mem_singleton.mp hmem).symm

/-! ### Attributes that count -/

/-- Of attributes as they are written, those that count: the first of every name, as `nameChar`
    makes it. -/
def kept : List (List Char × List Char) → List (List Char × List Char)
  | [] => []
  | a :: as => a :: (kept as).filter (·.1.map nameChar ≠ a.1.map nameChar)

/-- Whether no attribute among `held` has the name of `a`. -/
def isNew (held : List Attribute) (a : List Char × List Char) : Bool :=
  held.all (·.name ≠ (attributeOf a).name)

/-- The name of `attributeOf a` is the key of `a` as it is read, in lower case. -/
theorem attributeOf_name_eq_iff {a b : List Char × List Char} :
    (attributeOf a).name = (attributeOf b).name ↔ a.1.map nameChar = b.1.map nameChar := by
  rw [attributeOf, attributeOf, String.ofList_inj]

/-- An attribute `a` is `held`, behind the others, if it is new. -/
theorem hold_attributeOf (held : List Attribute) (a : List Char × List Char) :
    hold held (attributeOf a) = if isNew held a then held ++ [attributeOf a] else held := by
  unfold hold isNew
  by_cases h : held.any (·.name == (attributeOf a).name) = true
  · rw [if_pos h, if_neg (by simpa using h)]
  · rw [if_neg h, if_pos (by simpa using h)]

/-- An attribute `b` is new behind `a` if it was new before and has another name than `a`. -/
theorem isNew_append (held : List Attribute) (a b : List Char × List Char) :
    isNew (held ++ [attributeOf a]) b =
      (isNew held b && decide (b.1.map nameChar ≠ a.1.map nameChar)) := by
  rw [isNew, List.all_append, isNew]
  congr 1
  simp [attributeOf_name_eq_iff, eq_comm]

/-- Where the attribute `a` is not new, one that has its name is not new either. -/
theorem isNew_of_not_isNew {held : List Attribute} {a b : List Char × List Char}
    (ha : isNew held a = false) : (isNew held b && decide (b.1.map nameChar ≠ a.1.map nameChar)) =
      isNew held b := by
  by_cases hname : b.1.map nameChar = a.1.map nameChar
  · have hb : isNew held b = isNew held a := by
      rw [isNew, isNew, attributeOf_name_eq_iff.mpr hname]
    rw [hb, ha, Bool.false_and]
  · rw [decide_eq_true hname, Bool.and_true]

/-- **The attributes that a tag holds are those that count,** the `kept` ones, each as it is
    read. -/
theorem heldAttributes_eq (as : List (List Char × List Char)) :
    heldAttributes as = (kept as).map attributeOf := by
  have hall : ∀ held : List Attribute, (as.map attributeOf).foldl hold held =
      held ++ ((kept as).filter (isNew held)).map attributeOf := by
    induction as with
    | nil => exact fun held => (List.append_nil held).symm
    | cons a as ih =>
      intro held
      rw [List.map_cons, List.foldl_cons, ih, kept, hold_attributeOf]
      cases ha : isNew held a with
      | false =>
        rw [if_neg Bool.false_ne_true, List.filter_cons_of_neg (by simp [ha]), List.filter_filter]
        simp only [isNew_of_not_isNew ha]
      | true =>
        rw [if_pos rfl, List.filter_cons_of_pos ha, List.map_cons, List.append_assoc,
          List.singleton_append, List.filter_filter]
        have hrest : isNew (held ++ [attributeOf a]) = fun b =>
            isNew held b && decide (b.1.map nameChar ≠ a.1.map nameChar) :=
          funext (isNew_append held a)
        rw [hrest]
  have hnew : isNew [] = fun _ => true := rfl
  rw [heldAttributes, hall, hnew, List.filter_true, List.nil_append]

/-- No two of the attributes that are `kept` have one name. -/
theorem kept_pairwise (as : List (List Char × List Char)) :
    (kept as).Pairwise fun a b => a.1.map nameChar ≠ b.1.map nameChar := by
  induction as with
  | nil => exact .nil
  | cons a as ih =>
    refine .cons (fun b hb => ?_) (ih.filter _)
    exact Ne.symm (of_decide_eq_true (List.mem_filter.mp hb).2)

/-- They are among those that are written, `as`. -/
theorem kept_subset (as : List (List Char × List Char)) : kept as ⊆ as := by
  induction as with
  | nil => exact List.Subset.refl _
  | cons a as ih =>
    refine List.cons_subset_cons a fun b hb => ih (List.mem_filter.mp hb).1

/-- Which attributes count does not depend on their values, so that these can be changed by `f`
    before or after. -/
theorem kept_map (f : List Char → List Char) (as : List (List Char × List Char)) :
    kept (as.map fun a => (a.1, f a.2)) = (kept as).map fun a => (a.1, f a.2) := by
  induction as with
  | nil => rfl
  | cons a as ih =>
    rw [List.map_cons, kept, ih, kept, List.map_cons, List.filter_map]
    rfl

/-! ### Attributes of elements -/

namespace Attributes

/-- An attribute `a` that is put in its place takes the place of none but its namesake, and there is
    none in `as`. -/
theorem insertSorted_perm {a : Attribute} {as : List Attribute}
    (h : ∀ b ∈ as, a.sameName b = false) : (insertSorted a as).Perm (a :: as) := by
  induction as with
  | nil => exact .refl _
  | cons b as ih =>
    rw [List.forall_mem_cons] at h
    rw [insertSorted, if_neg (by simp [h.1])]
    split
    · exact .refl _
    · exact ((ih h.2).cons b).trans (.swap a b as)

/-- **Attributes of different names are all there** in `ofList as`. -/
theorem ofList_perm {as : List Attribute} (h : as.Pairwise fun a b => a.sameName b = false) :
    (ofList as).toList.Perm as := by
  have hall : ∀ held : Attributes, (∀ a ∈ as, ∀ b ∈ held.toList, a.sameName b = false) →
      (as.foldl insert held).toList.Perm (as ++ held.toList) := by
    induction as with
    | nil => exact fun held _ => .refl _
    | cons a as ih =>
      rw [List.pairwise_cons] at h
      intro held hheld
      rw [List.forall_mem_cons] at hheld
      have hinsert : (held.insert a).toList.Perm (a :: held.toList) := insertSorted_perm hheld.1
      refine (ih h.2 (held.insert a) fun b hb c hc => ?_).trans ?_
      · rcases List.mem_cons.mp (hinsert.mem_iff.mp hc) with rfl | hc
        · have hsame : b.sameName c = c.sameName b := by
            simp [Attribute.sameName, Bool.beq_comm]
          rw [hsame]
          exact h.1 b hb
        · exact hheld.2 b hb c hc
      · exact (hinsert.append_left as).trans List.perm_middle
  have hwhole := hall {} nofun
  rwa [List.append_nil] at hwhole

end Attributes

/-- The attributes of the element are those that are `kept`, each as it is read. -/
theorem mem_heldAttributes {x : Attribute} {as : List (List Char × List Char)} :
    x ∈ (Attributes.ofList (heldAttributes as)).toList ↔ ∃ a ∈ kept as, attributeOf a = x := by
  rw [heldAttributes_eq, (Attributes.ofList_perm ?_).mem_iff, List.mem_map]
  refine List.pairwise_map.mpr ((kept_pairwise as).imp fun {a b} hne => ?_)
  have hname : (attributeOf a).name ≠ (attributeOf b).name := mt attributeOf_name_eq_iff.mp hne
  simp [Attribute.sameName, hname]

/-- **Attributes with other values** are the same attributes exactly if the values that count are
    read alike. A change `f` to a value that does not count is not seen. -/
theorem ofList_heldAttributes_eq_iff (f : List Char → List Char)
    (as : List (List Char × List Char)) :
    Attributes.ofList (heldAttributes (as.map fun a => (a.1, f a.2))) =
      Attributes.ofList (heldAttributes as) ↔ ∀ a ∈ kept as, valueOf (f a.2) = valueOf a.2 := by
  constructor
  · intro h a ha
    have hmem : attributeOf (a.1, f a.2) ∈ (Attributes.ofList (heldAttributes as)).toList := by
      rw [← h, mem_heldAttributes, kept_map]
      exact ⟨_, List.mem_map_of_mem ha, rfl⟩
    obtain ⟨b, hb, heq⟩ := mem_heldAttributes.mp hmem
    have hname : b.1.map nameChar = a.1.map nameChar :=
      String.ofList_inj.mp (congrArg Attribute.name heq)
    have hsymm : Std.Symm fun a b : List Char × List Char =>
      -- of the name there is one attribute only, so it is this one that has the value
        a.1.map nameChar ≠ b.1.map nameChar := ⟨fun _ _ h => Ne.symm h⟩
    obtain rfl : b = a := by
      by_contra hne
      exact (kept_pairwise as).forall hb ha hne hname
    exact (String.ofList_inj.mp (congrArg Attribute.value heq)).symm
  · intro h
    rw [heldAttributes_eq, heldAttributes_eq, kept_map, List.map_map]
    congr 1
    refine List.map_congr_left fun a ha => ?_
    rw [Function.comp_apply, attributeOf, attributeOf, h a ha]

/-! ### Tags -/

/-- A box as it is read: a `div` or `span` element that can be told by its start tag. -/
structure IsBox (e : Element) : Prop where
  /-- It belongs to the HTML vocabulary. -/
  space : e.space = .html
  /-- It stands for no region. -/
  region : e.region = none
  /-- It is a `div` or a `span`. -/
  name : e.name = "div" ∨ e.name = "span"
  /-- Its attributes can be told from their values. -/
  attributes : ∀ a ∈ e.attributes.toList, a.space = .plain ∧ '=' ∉ a.name.toList

/-- A character `c` of a key is no equals sign in lower case either, if it is none as it is
    written. -/
theorem nameChar_ne_equals {c : Char} (h : c ≠ '=') : nameChar c ≠ '=' := by
  unfold nameChar
  split
  · decide
  · unfold Char.toLower
    split
    · rename_i hupper
      intro heq
      have hval := congrArg (fun c : Char => c.val.toNat) heq
      simp only [UInt32.toNat_add] at hval
      have hlow : 65 ≤ c.val.toNat := hupper.1
      have hhigh : c.val.toNat ≤ 90 := hupper.2
      have hshift : ('a'.val - 'A'.val).toNat = 32 := rfl
      have hequals : '='.val.toNat = 61 := rfl
      omega
    · exact h

/-- **The tags of boxes are read as boxes:** `t.read` makes one. -/
theorem isBox_read (t : BoxTag) : IsBox t.read.element where
  space := rfl
  region := rfl
  name := by
    show String.ofList t.name = "div" ∨ String.ofList t.name = "span"
    rcases t.isBox with h | h <;> rw [h]
    · exact .inl String.ofList_toList
    · exact .inr String.ofList_toList
  attributes := by
    intro a ha
    obtain ⟨b, hb, rfl⟩ := mem_heldAttributes.mp ha
    refine ⟨rfl, fun hmem => ?_⟩
    have hkey := (t.keys_isKeyChar (kept_subset _ hb)).2
    rw [attributeOf, String.toList_ofList] at hmem
    obtain ⟨c, hc, heq⟩ := List.mem_map.mp hmem
    have hchar := List.all_eq_true.mp hkey c hc
    have hne : c ≠ '=' := by
      rintro rfl
      cases hchar
    exact nameChar_ne_equals hne heq

/-- The markup of the attribute `a` without a namespace. -/
theorem Attribute.toList_write {a : Attribute} (h : a.space = .plain) :
    a.write.toList = ' ' :: (a.name.toList ++
      ('=' :: '"' :: (a.value.toList.flatMap escapeValueChar ++ ['"']))) := by
  have hname : a.writtenName = a.name := by
    unfold writtenName
    rw [h]
  unfold write escapeValue
  rw [hname]
  simp

/-- **Attributes are told by how they are written,** up to the `>` that ends the tag: a name goes on
    to its equals sign, and a value to its quote. -/
theorem attributes_injective {as as' : List Attribute}
    (hplain : ∀ a ∈ as, a.space = .plain ∧ '=' ∉ a.name.toList)
    (hplain' : ∀ a ∈ as', a.space = .plain ∧ '=' ∉ a.name.toList) {k k' : List Char}
    (h : as.flatMap (fun a => a.write.toList) ++ '>' :: k =
      as'.flatMap (fun a => a.write.toList) ++ '>' :: k') : as = as' ∧ k = k' := by
  induction as generalizing as' with
  | nil =>
    cases as' with
    | nil => exact ⟨rfl, (List.cons.inj h).2⟩
    | cons a' as' =>
      rw [List.flatMap_cons, Attribute.toList_write (hplain' a' List.mem_cons_self).1] at h
      exact absurd (List.cons.inj h).1 (by decide)
  | cons a as ih =>
    rw [List.forall_mem_cons] at hplain
    rw [List.flatMap_cons, Attribute.toList_write hplain.1.1] at h
    cases as' with
    | nil => exact absurd (List.cons.inj h).1 (by decide)
    | cons a' as' =>
      rw [List.forall_mem_cons] at hplain'
      rw [List.flatMap_cons, Attribute.toList_write hplain'.1.1] at h
      simp only [List.cons_append, List.append_assoc, List.cons.injEq, true_and] at h
      obtain ⟨hname, hrest⟩ := append_inj_of_head hplain.1.2 hplain'.1.2
        (by simp) (by simp) h
      simp only [List.cons.injEq, true_and] at hrest
      obtain ⟨hvalue, hrest⟩ := append_inj_of_head (quote_not_mem_escapeValue _)
        (quote_not_mem_escapeValue _) (by simp) (by simp) hrest
      obtain ⟨rfl, rfl⟩ := ih hplain.2 hplain'.2 (List.cons.inj hrest).2
      have ha : a = a' := by
        obtain ⟨space, name, value⟩ := a
        obtain ⟨space', name', value'⟩ := a'
        obtain rfl : name = name' := String.toList_inj.mp hname
        obtain rfl : value = value' :=
          String.toList_inj.mp (flatMap_escapeValueChar_injective hvalue)
        obtain rfl : space = space' := hplain.1.1.trans hplain'.1.1.symm
        rfl
      exact ⟨by rw [ha], rfl⟩

/-- The markup of the start tag of `e`, attribute by attribute. -/
theorem Element.toList_startTag (e : Element) : e.startTag.toList =
    '<' :: (e.name.toList ++ (e.attributes.toList.flatMap (fun a => a.write.toList) ++ ['>'])) := by
  unfold startTag
  simp [List.flatMap_map]

/-- **A box is told by its start tag,** whatever `k` stands behind that. -/
theorem startTag_injective {e e' : Element} (he : IsBox e) (he' : IsBox e') {k k' : List Char}
    (h : e.startTag.toList ++ k = e'.startTag.toList ++ k') : e = e' ∧ k = k' := by
  rw [Element.toList_startTag, Element.toList_startTag] at h
  simp only [List.cons_append, List.append_assoc, List.cons.injEq, true_and, List.nil_append] at h
  obtain ⟨hname, hrest⟩ : e.name = e'.name ∧
      e.attributes.toList.flatMap (fun a => a.write.toList) ++ '>' :: k =
        e'.attributes.toList.flatMap (fun a => a.write.toList) ++ '>' :: k' := by
    -- hn <;> rcases he'.name | the names end alike only if they are the same
    rcases he.name with hn | hn <;> rcases he'.name with hn' | hn' <;> rw [hn, hn'] at h ⊢
    · exact ⟨rfl, List.append_cancel_left h⟩
    · exact absurd (List.cons.inj h).1 (by decide)
    · exact absurd (List.cons.inj h).1 (by decide)
    · exact ⟨rfl, List.append_cancel_left h⟩
  obtain ⟨hattributes, hk⟩ := attributes_injective he.attributes he'.attributes hrest
  refine ⟨?_, hk⟩
  obtain ⟨space, name, ⟨attributes⟩, region⟩ := e
  obtain ⟨space', name', ⟨attributes'⟩, region'⟩ := e'
  obtain rfl : name = name' := hname
  obtain rfl : attributes = attributes' := hattributes
  obtain rfl : space = space' := he.space.trans he'.space.symm
  obtain rfl : region = region' := he.region.trans he'.region.symm
  rfl

/-! ### Boxes -/

/-- The markup of an element `e` whose text is escaped and which has an end tag. -/
theorem Node.writeAll_element {e : Element} (he : e.isRaw = false ∧ e.isVoid = false)
    (children rest : List Node) : writeAll (.element e children :: rest) =
      e.startTag ++ writeAll children ++ e.endTag ++ writeAll rest := by
  rw [writeAll, writeAllIn, writeIn, he.1, he.2]
  rfl

/-- The box `e` holds text that is escaped, and has an end tag. -/
theorem IsBox.holdsText {e : Element} (he : IsBox e) : e.isRaw = false ∧ e.isVoid = false := by
  unfold Element.isRaw Element.isVoid
  rcases he.name with h | h <;> rw [h, he.space] <;> decide

namespace Flow

/-- A change `g` to the tags goes through all of them, and through no others. -/
theorem tags_map {τ τ' θ θ' : Type} (f : τ → τ') (g : θ → θ') (x : Flow τ θ) :
    (x.map f g).tags = x.tags.map g := by
  induction x with
  | text t => rfl
  | element before tag inner after ihInner ihAfter =>
    rw [map, tags, ihInner, ihAfter, tags, List.map_cons, List.map_append]

/-- The elements that the flow `x` of text and boxes is read as are boxes. -/
theorem isBox_of_mem_decoded {x : Flow Xml.Run BoxTag} {e : Element} (he : e ∈ x.decoded.tags) :
    IsBox e := by
  rw [decoded, tags_map] at he
  obtain ⟨t, -, rfl⟩ := List.mem_map.mp he
  exact isBox_read t

/-- The elements of the trees of `x` are those of its tags. -/
theorem elementsIn_nodes (x : Flow (List Char) Element) : Node.elementsIn x.nodes = x.tags := by
  have htext : ∀ s, Node.elementsIn (textNodes s) = [] := by
    intro s
    unfold textNodes
    split <;> rfl
  induction x with
  | text s => exact htext s
  | element before e inner after ihInner ihAfter =>
    rw [nodes, Node.elementsIn_append, htext, Node.elementsIn_element, ihInner, ihAfter]
    rfl

/-- The markup of text with boxes in it; `Node.writeAll` of its trees comes to the same. -/
def markup : Flow (List Char) Element → List Char
  | text s => s.flatMap escapeTextChar
  | element before e inner after => before.flatMap escapeTextChar ++
      (e.startTag.toList ++ (inner.markup ++ (e.endTag.toList ++ after.markup)))

/-- The markup of the text `s` in front of the trees `rest`. -/
theorem writeAll_textNodes (s : List Char) (rest : List Node) :
    (Node.writeAll (textNodes s ++ rest)).toList =
      s.flatMap escapeTextChar ++ (Node.writeAll rest).toList := by
  unfold textNodes
  split
  · rename_i h
    rw [h]
    rfl
  · rw [List.singleton_append, Node.writeAll, Node.writeAllIn, Node.writeIn]
    simp [escapeText, Node.writeAll]

/-- **The markup of the trees** of text with boxes in it is its `markup`. -/
theorem writeAll_nodes {x : Flow (List Char) Element} (hx : ∀ e ∈ x.tags, IsBox e) :
    (Node.writeAll x.nodes).toList = x.markup := by
  induction x with
  | text s =>
    rw [nodes, ← List.append_nil (textNodes s), writeAll_textNodes]
    exact List.append_nil _
  | element before e inner after ihInner ihAfter =>
    rw [tags, List.forall_mem_cons, List.forall_mem_append] at hx
    rw [nodes, writeAll_textNodes, Node.writeAll_element hx.1.holdsText]
    simp only [String.toList_append, ihInner hx.2.1, ihAfter hx.2.2, List.append_assoc]
    rfl

/-- What can stand behind the text of an element: `k` is nothing, or begins with an end tag. -/
def Closes (k : List Char) : Prop :=
  k = [] ∨ ∃ t, k = '<' :: '/' :: t

/-- A text in front of it goes on to the first `<`, if there is one. -/
theorem Closes.head?_eq {k : List Char} (hk : Closes k) : ∀ c ∈ k.head?, c = '<' := by
  intro c hc
  rcases hk with rfl | ⟨t, rfl⟩
  · cases hc
  · exact (Option.some.inj hc).symm

/-- The same holds of a text in front of the start tag of `e`. -/
theorem head?_startTag (e : Element) (rest : List Char) :
    ∀ c ∈ (e.startTag.toList ++ rest).head?, c = '<' := by
  intro c hc
  rw [Element.toList_startTag] at hc
  exact (Option.some.inj hc).symm

/-- The end tag of `e` closes the text in front of it. -/
theorem closes_endTag (e : Element) (rest : List Char) : Closes (e.endTag.toList ++ rest) := by
  refine .inr ⟨e.name.toList ++ '>' :: rest, ?_⟩
  rw [Element.endTag]
  simp

/-- No end tag is the start tag of the box `e`, as the name of a box does not begin with a slash. -/
theorem startTag_ne_of_closes {e : Element} (he : IsBox e) (rest : List Char) {k : List Char}
    (hk : Closes k) : e.startTag.toList ++ rest ≠ k := by
  intro heq
  rw [Element.toList_startTag] at heq
  rcases hk with rfl | ⟨t, rfl⟩
  · cases heq
  · rcases he.name with h | h <;> rw [h] at heq <;>
      exact absurd (List.cons.inj (List.cons.inj heq).2).1 (by decide)

/-- **Boxes are told by their markup.** If text with boxes in it is written as other text with boxes
    in it is, they are the same; `k` and `k'` are what stands behind the two. -/
theorem markup_injective {x y : Flow (List Char) Element} (hx : ∀ e ∈ x.tags, IsBox e)
    (hy : ∀ e ∈ y.tags, IsBox e) {k k' : List Char} (hk : Closes k) (hk' : Closes k')
    (h : x.markup ++ k = y.markup ++ k') : x = y ∧ k = k' := by
  induction x generalizing y k k' with
  | text s =>
    cases y with
    | text s' =>
      obtain ⟨hs, rfl⟩ := append_inj_of_head (lt_not_mem_escapeText s) (lt_not_mem_escapeText s')
        hk.head?_eq hk'.head?_eq h
      exact ⟨by rw [flatMap_escapeTextChar_injective hs], rfl⟩
    | element before' e' inner' after' =>
      rw [tags, List.forall_mem_cons] at hy
      simp only [markup, List.append_assoc] at h
      obtain ⟨-, h⟩ := append_inj_of_head (lt_not_mem_escapeText s)
        (lt_not_mem_escapeText before') hk.head?_eq (head?_startTag e' _) h
      -- one goes on with a start tag, the other ends
      exact absurd h.symm (startTag_ne_of_closes hy.1 _ hk)
  | element before e inner after ihInner ihAfter =>
    rw [tags, List.forall_mem_cons, List.forall_mem_append] at hx
    cases y with
    | text s' =>
      simp only [markup, List.append_assoc] at h
      obtain ⟨-, h⟩ := append_inj_of_head (lt_not_mem_escapeText before)
        (lt_not_mem_escapeText s') (head?_startTag e _) hk'.head?_eq h
      exact absurd h (startTag_ne_of_closes hx.1 _ hk')
    | element before' e' inner' after' =>
      rw [tags, List.forall_mem_cons, List.forall_mem_append] at hy
      simp only [markup, List.append_assoc] at h
      obtain ⟨hbefore, h⟩ := append_inj_of_head (lt_not_mem_escapeText before)
        (lt_not_mem_escapeText before') (head?_startTag e _) (head?_startTag e' _) h
      obtain ⟨rfl, h⟩ := startTag_injective hx.1 hy.1 h
      obtain ⟨hinner, hrest⟩ := ihInner hx.2.1 hy.2.1 (closes_endTag e _) (closes_endTag e _) h
      obtain ⟨hafter, hk⟩ := ihAfter hx.2.2 hy.2.2 hk hk' (List.append_cancel_left hrest)
      exact ⟨by rw [flatMap_escapeTextChar_injective hbefore, hinner, hafter], hk⟩

end Flow

end PagePatch.Html
