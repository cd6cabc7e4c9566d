import PagePatch.Proofs.Html.First
import PagePatch.Proofs.Page.Removal
import PagePatch.Proofs.Patch.Alone

namespace PagePatch

/-!
# Attributes set one after another

Attributes of one element are set by changes that look the element up anew, each by the id. All of
them reach the same element until one gives it another id: what stands behind that one finds another
element with the id, or none.

* `Html.Element.setAll`, `Html.Carries` — an element after a number of settings, and what it
  carries;
* `Page.SetOn` — the settings on the element that an id leads to;
* `Page.Renames`, `Page.KeepsId` — the settings that give an element another id;
* `Page.applyAll_settings` — settings that reach the element;
* `Page.Sets`, `Page.Synced.sets` — what settings come to, in whatever order they stand.
-/

open Html

/-! ### Attributes -/

namespace Html.Attributes

/-- An attribute `a` that is put in its place is found there under its own name. -/
theorem find?_insertSorted_self {a : Attribute} {space : AttributeSpace} {name : String}
    (ha : (a.space == space && a.name == name) = true) (as : List Attribute) :
    (insertSorted a as).find? (fun b => b.space == space && b.name == name) = some a := by
  induction as with
  | nil => rw [insertSorted, List.find?_cons, ha]
  | cons b rest ih =>
    rw [insertSorted]
    split
    · rw [List.find?_cons, ha]
    · rename_i hother
      split
      · rw [List.find?_cons, ha]
      · -- the attribute that stays in front has another name
        have hb : (b.space == space && b.name == name) = false := by
          rw [← Bool.not_eq_true]
          intro hb
          obtain ⟨haspace, haname⟩ := Bool.and_eq_true_iff.mp ha
          obtain ⟨hbspace, hbname⟩ := Bool.and_eq_true_iff.mp hb
          refine hother (Bool.and_eq_true_iff.mpr ⟨?_, ?_⟩)
          · rw [beq_iff_eq.mp haspace, beq_iff_eq.mp hbspace, beq_self_eq_true]
          · rw [beq_iff_eq.mp haname, beq_iff_eq.mp hbname, beq_self_eq_true]
        rw [List.find?_cons, hb, ih]

theorem get?_set_self (as : Attributes) (name value : String) :
    (as.set name value).get? name = some value := by
  have hfind := @find?_insertSorted_self { name, value } .plain name (by simp) as.toList
  exact congrArg (Option.map Attribute.value) hfind

/-- An attribute `a` that is put in its place leaves those that have another name, and their
    order. -/
theorem filter_insertSorted {a : Attribute} {p : Attribute → Bool}
    (hp : ∀ b, a.sameName b = true → p b = false) (as : List Attribute) :
    (insertSorted a as).filter p = as.filter p := by
  have ha : p a = false := hp a (by simp [Attribute.sameName])
  induction as with
  | nil => simp [insertSorted, ha]
  | cons b rest ih =>
    rw [insertSorted]
    split
    · rename_i hsame
      simp [ha, hp b hsame]
    · split
      · simp [List.filter_cons, ha]
      · simp [List.filter_cons, ih]

end Html.Attributes

/-- The value of the last of several settings with `name`, letter case aside; none if no setting has
    it. -/
def lastValue? (settings : List (String × String)) (name : String) : Option String :=
  (settings.reverse.find? fun s => Page.lowerName s.1 == name).map Prod.snd

theorem lastValue?_cons (s : String × String) (rest : List (String × String)) (name : String) :
    lastValue? (s :: rest) name =
      (lastValue? rest name).or (if Page.lowerName s.1 = name then some s.2 else none) := by
  unfold lastValue?
  rw [List.reverse_cons, List.find?_append, Option.map_or]
  by_cases hname : Page.lowerName s.1 = name
  · simp [hname]
  · simp [hname]

/-- Whether the attribute `a` is one that some setting names. -/
def isAmong (settings : List (String × String)) (a : Html.Attribute) : Bool :=
  a.space == .plain && settings.any fun s => Page.lowerName s.1 == a.name

namespace Html

/-- An element after `settings`, each a name and a value, one after another. -/
def Element.setAll (e : Element) (settings : List (String × String)) : Element :=
  { e with attributes := settings.foldl (fun as s => as.set (Page.lowerName s.1) s.2) e.attributes }

theorem Element.setAll_cons (e : Element) (s : String × String) (rest : List (String × String)) :
    e.setAll (s :: rest) = (e.setAll [s]).setAll rest := rfl

/-- The value of the attribute `name` after one setting `s`. -/
theorem Element.attribute?_setAll_singleton (e : Element) (s : String × String) (name : String) :
    (e.setAll [s]).attribute? name =
      if Page.lowerName s.1 = name then some s.2 else e.attribute? name := by
  by_cases hname : Page.lowerName s.1 = name
  · rw [if_pos hname, ← hname]
    exact e.attributes.get?_set_self _ _
  · rw [if_neg hname]
    exact e.attributes.get?_set_of_ne hname _

/-- The element `e'` carries what `settings` say, and is what `e` was apart from that. -/
structure Carries (e e' : Element) (settings : List (String × String)) : Prop where
  /-- An attribute has the value of the last setting with its name, or the one that it had. -/
  value_eq : ∀ name, e'.attribute? name = (lastValue? settings name).or (e.attribute? name)
  /-- The attributes that no setting names are what they were. -/
  others_eq : e'.attributes.toList.filter (fun a => !isAmong settings a) =
    e.attributes.toList.filter fun a => !isAmong settings a
  /-- The vocabulary is what it was. -/
  space_eq : e'.space = e.space
  /-- The name is what it was. -/
  name_eq : e'.name = e.name
  /-- The region that it stands for is what it was. -/
  region_eq : e'.region = e.region

/-- **Settings add up.** The element `e` after several `settings` carries all of them; of those with
    the same name the last one counts. -/
theorem carries_setAll (e : Element) (settings : List (String × String)) :
    Carries e (e.setAll settings) settings := by
  refine ⟨fun name => ?_, ?_, rfl, rfl, rfl⟩
  · induction settings generalizing e with
    | nil => rfl
    | cons s rest ih =>
      rw [e.setAll_cons, ih, lastValue?_cons, Option.or_assoc, e.attribute?_setAll_singleton]
      by_cases hname : Page.lowerName s.1 = name
      · simp [hname]
      · simp [hname]
  · -- what is kept by the settings behind the first one is kept by all
    suffices hkept : ∀ all, settings ⊆ all →
        (e.setAll settings).attributes.toList.filter (fun a => !isAmong all a) =
          e.attributes.toList.filter fun a => !isAmong all a from
      hkept settings (List.Subset.refl _)
    intro all hall
    induction settings generalizing e with
    | nil => rfl
    | cons s rest ih =>
      rw [e.setAll_cons, ih _ fun x hx => hall (List.mem_cons_of_mem s hx)]
      refine Attributes.filter_insertSorted (fun b hb => ?_) _
      obtain ⟨hspace, hname⟩ := Bool.and_eq_true_iff.mp hb
      have hs : isAmong all b = true := by
        refine Bool.and_eq_true_iff.mpr ⟨?_, ?_⟩
        · rw [← beq_iff_eq.mp hspace]
          rfl
        · exact List.any_eq_true.mpr ⟨s, hall List.mem_cons_self, hname⟩
      rw [hs]
      rfl

end Html

/-! ### Settings on a page -/

/-- The changes that set attributes of the element `target`, one for each of `settings`. -/
def settingsOf (target : String) (settings : List (String × String)) : List Operation :=
  settings.map fun s => .setAttribute target s.1 s.2

namespace Page

variable {p q : Page} {target : String} {settings : List (String × String)}

/-- The setting `s` gives the element `target` another id. -/
def Renames (target : String) (s : String × String) : Prop :=
  lowerName s.1 = "id" ∧ s.2 ≠ target

instance (target : String) (s : String × String) : Decidable (Renames target s) :=
  inferInstanceAs (Decidable (lowerName s.1 = "id" ∧ s.2 ≠ target))

/-- No setting stands behind one that gives the element `target` another id. The last one may do
    so. -/
def KeepsId (target : String) (settings : List (String × String)) : Prop :=
  ∀ before s after, settings = before ++ s :: after → Renames target s → after = []

theorem KeepsId.tail {s : String × String} {rest : List (String × String)}
    (h : KeepsId target (s :: rest)) : KeepsId target rest := by
  rintro before s' after rfl hs'
  exact h (s :: before) s' after rfl hs'

/-- Settings of which only the last one, `s`, gives the element another id. -/
theorem keepsId_concat {before : List (String × String)}
    (h : ∀ s ∈ before, ¬ Renames target s) (s : String × String) :
    KeepsId target (before ++ [s]) := by
  intro first s' after hsplit hs'
  rcases List.eq_nil_or_concat after with rfl | ⟨middle, last, rfl⟩
  · rfl
  · -- a setting with another one behind it is one of the first ones
    rw [List.concat_eq_append, ← List.cons_append, ← List.append_assoc] at hsplit
    obtain ⟨rfl, -⟩ := List.append_inj' hsplit rfl
    exact absurd hs' (h s' (by simp))

/-- Otherwise there is a first setting `s` that gives the element another id, and others stand
    behind it. -/
theorem exists_renames (h : ¬ KeepsId target settings) : ∃ before s after,
    settings = before ++ s :: after ∧ (∀ s' ∈ before, ¬ Renames target s') ∧ Renames target s ∧
      after ≠ [] := by
  induction settings with
  | nil => exact absurd (fun before s after hsplit => by simp at hsplit) h
  | cons s rest ih =>
    by_cases hs : Renames target s
    · refine ⟨[], s, rest, rfl, List.forall_mem_nil _, hs, ?_⟩
      rintro rfl
      exact h (@keepsId_concat target [] (List.forall_mem_nil _) s)
    · have hrest : ¬ KeepsId target rest := by
        intro hrest
        refine h fun before s' after hsplit hs' => ?_
        cases before with
        | nil =>
          obtain ⟨rfl, -⟩ := List.cons_eq_cons.mp hsplit
          exact absurd hs' hs
        | cons first before =>
          obtain ⟨-, htail⟩ := List.cons_eq_cons.mp hsplit
          exact hrest before s' after htail hs'
      obtain ⟨before, s', after, rfl, hbefore, hs', hafter⟩ := ih hrest
      exact ⟨s :: before, s', after, rfl, List.forall_mem_cons.mpr ⟨hs, hbefore⟩, hs', hafter⟩

/-- The element still has the id `target` after a setting that gives it no other one. -/
theorem id?_setAll_of_not_renames {e : Html.Element} (he : e.id? = some target)
    {s : String × String} (hs : ¬ Renames target s) : (e.setAll [s]).id? = some target := by
  have hid := e.attribute?_setAll_singleton s "id"
  by_cases hname : lowerName s.1 = "id"
  · have hvalue : s.2 = target := by
      by_contra hother
      exact hs ⟨hname, hother⟩
    rw [if_pos hname, hvalue] at hid
    exact hid
  · rw [if_neg hname] at hid
    exact hid.trans he

/-- An instruction `i` about an element that succeeds. -/
theorem tellElement_of_ok {i : Instruction} {answer : Bool}
    (h : document.perform i p = (.ok answer, q)) : document.tellElement i p = (.ok none, q) := by
  simp only [Document.tellElement, h]

/-- One setting `s` of the element `e` at the address `a`, the first one that has the id
    `target`. -/
theorem applyOne_setAttribute (h : p.Synced) (hid : target ≠ "") {a : Address} {e : Html.Element}
    {children : List Html.Node}
    (hfirst : First (·.id? == some target) a (.element e children) p.nodes)
    (reserved : ReservedIds) (s : String × String) :
    ∃ q, document.applyOne reserved (.setAttribute target s.1 s.2) p = (.ok .done, q) ∧ q.Synced ∧
      q.nodes = Html.editAt (fun _ => [.element (e.setAll [s]) children]) a p.nodes ∧
      q.mutations = p.mutations + 1 := by
  have hperform : document.perform (.setAttribute target s.1 s.2) p =
      (.ok true, p.editAt (fun n => [n.mapElement fun e =>
        { e with attributes := e.attributes.set (lowerName s.1) s.2 }]) a) := by
    show p.editElement target _ = _
    rw [editElement, (h.find?_of_first hid hfirst).1]
  refine ⟨_, Action.bind_of_ok (tellElement_of_ok hperform) _, synced_withNodes p _, ?_, rfl⟩
  exact hfirst.editAt_congr rfl

/-- **Settings that reach the element.** As long as no setting stands behind one that gives the
    element another id, all of them are set on the element `e` that `target` led to before. -/
theorem applyAll_settings (h : p.Synced) (hid : target ≠ "") {a : Address} {e : Html.Element}
    {children : List Html.Node}
    (hfirst : First (·.id? == some target) a (.element e children) p.nodes)
    (reserved : ReservedIds) (hkeeps : KeepsId target settings) :
    ∃ q, document.applyAll reserved (settingsOf target settings) p =
        (.ok { applied := settings.length }, q) ∧ q.Synced ∧
      q.nodes = Html.editAt (fun _ => [.element (e.setAll settings) children]) a p.nodes ∧
      q.mutations = p.mutations + settings.length := by
  -- after each setting the first element with the id is the same one, with one more setting
  induction settings generalizing p e with
  | nil => exact ⟨p, rfl, h, (hfirst.editAt_self rfl).symm, rfl⟩
  | cons s rest ih =>
    obtain ⟨q, hone, hq, hnodes, hcount⟩ := applyOne_setAttribute h hid hfirst reserved s
    have hstep : ∀ {o : Outcome} {r : Page},
        document.applyAll reserved (settingsOf target rest) q = (.ok o, r) →
          document.applyAll reserved (settingsOf target (s :: rest)) p = (.ok (.done ++ o), r) := by
      intro o r hrest
      rw [settingsOf, List.map_cons, applyAll_cons, Action.bind_of_ok hone,
        Outcome.goOn_apply rfl, ← settingsOf, hrest]
    by_cases hs : Renames target s
    · -- a setting that gives another id is the last one
      obtain rfl := hkeeps [] s rest rfl hs
      exact ⟨q, hstep rfl, hq, hnodes, hcount⟩
    · obtain ⟨_, _, heq, he⟩ := hfirst.exists_element
      cases heq
      have hid' := id?_setAll_of_not_renames (beq_iff_eq.mp he) hs
      have hfirst' : First (·.id? == some target) a (.element (e.setAll [s]) children) q.nodes := by
        rw [hnodes]
        exact hfirst.edit_single rfl (beq_iff_eq.mpr hid')
      obtain ⟨r, hrest, hr, hnodes', hcount'⟩ := ih hq hfirst' hkeeps.tail
      refine ⟨r, ?_, hr, ?_, ?_⟩
      · rw [hstep hrest, Outcome.append_def]
        simp [Outcome.done, Nat.add_comm]
      · rw [hnodes', hnodes, hfirst.editAt_editAt]
        rfl
      · rw [hcount', hcount, List.length_cons]
        omega

/-- The `settings` of an element that is not there are passed over, each with the error that says
    so. -/
theorem applyAll_settings_of_not_has (h : p.Synced) (hid : ¬ p.Has target) (reserved : ReservedIds)
    (settings : List (String × String)) :
    document.applyAll reserved (settingsOf target settings) p =
      (.ok { skipped := List.replicate settings.length (.elementNotFound target) }, p) := by
  induction settings with
  | nil => rfl
  | cons s rest ih =>
    have hone : document.applyOne reserved (.setAttribute target s.1 s.2) p =
        (.ok (.skip (.elementNotFound target)), p) :=
      Action.bind_of_ok (tellElement_of_not_has h rfl hid) _
    rw [settingsOf, List.map_cons, applyAll_cons, Action.bind_of_ok hone, Outcome.goOn_apply rfl,
      ← settingsOf, ih]
    rfl

/-- The `settings` are carried out or passed over; none of them is a failure. -/
theorem exists_applyAll_settings (h : p.Synced) (reserved : ReservedIds) (target : String)
    (settings : List (String × String)) :
    ∃ o r, document.applyAll reserved (settingsOf target settings) p = (.ok o, r) := by
  induction settings generalizing p with
  | nil => exact ⟨{}, p, rfl⟩
  | cons s rest ih =>
    rcases fails_or_goes h reserved (.setAttribute target s.1 s.2) with
      ⟨e, hfate, -⟩ | ⟨-, o, q, hgoes⟩
    · obtain ⟨_, _, _, _, hinsert, -⟩ := fate_eq_fails_iff.mp hfate
      cases hinsert
    · obtain ⟨later, r, hrest⟩ := ih hgoes.synced
      refine ⟨o ++ later, r, ?_⟩
      rw [settingsOf, List.map_cons, hgoes.applyAll_cons rfl, ← settingsOf, hrest]

/-! ### What settings come to -/

/-- The page `q` is the page `p` with `settings` on the element that `target` leads to. -/
structure SetOn (p q : Page) (target : String) (settings : List (String × String)) : Prop where
  /-- The element stands where it stood and carries what the settings say. All other nodes are what
      they were, apart from what is in them. -/
  carried : ∃ a e e' children, p.find? target = some a ∧
    nodeAt? a p.nodes = some (.element e children) ∧ Carries e e' settings ∧
      q.nodes = Html.editAt (fun _ => [.element e' children]) a p.nodes ∧
      nodeAt? a q.nodes = some (.element e' children) ∧
      ∀ b, b ≠ a → (nodeAt? b q.nodes).map (Node.withChildren []) =
        (nodeAt? b p.nodes).map (Node.withChildren [])
  /-- Each setting is a change of the trees, even one that sets what was set before. -/
  mutations_eq : q.mutations = p.mutations + settings.length

/-- What the `changes` of a response come to that set attributes of the element `target`, one for
    each of `settings`. -/
structure Sets (reserved : ReservedIds) (p : Page) (target : String)
    (settings : List (String × String)) (changes : ChangeSet) : Prop where
  /-- If no setting stands behind one that gives the element another id, all are set on it. -/
  kept : KeepsId target settings → ∃ q, SetOn p q target settings ∧
    ∀ {σ : Type} (host : ScriptHost σ) (state : σ),
      host.document.apply reserved changes (p, state) =
        (.ok { applied := settings.length }, q, state)
  /-- Otherwise those up to the first such one are set on it. The id leads elsewhere then, and those
      behind are carried out on the page as it is now. If no other element has the id, they are all
      passed over. -/
  lost : ∀ before s after, settings = before ++ s :: after →
    (∀ s' ∈ before, ¬ Renames target s') → Renames target s →
      ∃ q o r, SetOn p q target (before ++ [s]) ∧ q.find? target ≠ p.find? target ∧
        document.applyAll reserved (settingsOf target after) q = (.ok o, r) ∧
        (∀ {σ : Type} (host : ScriptHost σ) (state : σ),
          host.document.apply reserved changes (p, state) =
            (.ok ({ applied := before.length + 1 } ++ o), r, state)) ∧
        (¬ q.Has target → r = q ∧
          o = { skipped := List.replicate after.length (.elementNotFound target) })
  /-- If no other element has the id, nothing is passed over exactly if no setting stands behind one
      that gives the element another id. -/
  all_iff : p.Unique target → ((∃ o q, document.apply reserved changes p = (.ok o, q) ∧
    o.skipped = []) ↔ KeepsId target settings)

/-- The page `q` whose element at `a` was replaced by the one with all settings is the page `p` with
    the settings on it. -/
theorem setOn_of_nodes {a : Address} {e : Html.Element} {children : List Html.Node}
    (ha : p.find? target = some a)
    (hfirst : First (·.id? == some target) a (.element e children) p.nodes)
    (hnodes : q.nodes = Html.editAt (fun _ => [.element (e.setAll settings) children]) a p.nodes)
    (hcount : q.mutations = p.mutations + settings.length) : SetOn p q target settings := by
  refine ⟨⟨a, e, e.setAll settings, children, ha, hfirst.nodeAt?_eq, carries_setAll e settings,
    hnodes, ?_, ?_⟩, hcount⟩
  · rw [hnodes]
    exact hfirst.nodeAt?_edit _
  · intro b hb
    rw [hnodes]
    exact hfirst.nodeAt?_of_ne hb

/-- An element that has another id than `target` is not the one that `target` leads to. -/
theorem find?_ne_of_renamed (hq : q.Synced) {a : Address} {e : Html.Element}
    {children : List Html.Node} (hnode : nodeAt? a q.nodes = some (.element e children))
    (he : e.id? ≠ some target) : q.find? target ≠ some a := by
  intro hfind
  obtain ⟨-, e', children', hfirst, he'⟩ := hq.first_of_find? hfind
  -- the first element with the id would be the one at `a`, which has another id
  cases hfirst.nodeAt?_eq.symm.trans hnode
  exact he he'

/-- An element does not have the id `target` after settings of which the last one, `s`, gives it
    another id. -/
theorem id?_setAll_concat {s : String × String} (hs : Renames target s) (e : Html.Element)
    (before : List (String × String)) : (e.setAll (before ++ [s])).id? ≠ some target := by
  have hall : e.setAll (before ++ [s]) = (e.setAll before).setAll [s] := by
    simp [Html.Element.setAll]
  have hid := (e.setAll before).attribute?_setAll_singleton s "id"
  rw [if_pos hs.1, ← hall] at hid
  intro htarget
  exact hs.2 (Option.some.inj (hid.symm.trans htarget))

/-- An id that one element of `p` had leads nowhere on `q`, when that element got another id by the
    settings. -/
theorem SetOn.not_has (h : SetOn p q target settings) (hq : q.Synced) (hunique : p.Unique target)
    (hfind : q.find? target ≠ p.find? target) : ¬ q.Has target := by
  intro hhas
  obtain ⟨a, e, e', children, ha, -, -, -, -, hothers⟩ := h.carried
  obtain ⟨-, b, e₂, children₂, hb, hfirst, he₂⟩ := hq.first_of_has hhas
  have hne : b ≠ a := by
    rintro rfl
    exact hfind (hb.trans ha.symm)
  -- the element that is found now had the id before as well
  have hsame := hothers b hne
  rw [hfirst.nodeAt?_eq] at hsame
  obtain ⟨n, hn, hn'⟩ := Option.map_eq_some_iff.mp hsame.symm
  cases n with
  | element e₃ children₃ =>
    cases hn'
    have hfirst' := hunique b e₂ children₃ hn he₂
    exact hne (Option.some.inj (hfirst'.symm.trans ha))
  | text t | comment t | doctype t => cases hn'

/-- **Settings that do not reach the element.** Those up to the first one that gives the element
    another id, `s`, are set on it. The id leads elsewhere then, and the settings `after` it are
    carried out on the page `q` that is left. -/
theorem applyAll_settings_split (h : p.Synced) (hid : p.Has target) (reserved : ReservedIds)
    {before after : List (String × String)} {s : String × String}
    (hbefore : ∀ s' ∈ before, ¬ Renames target s') (hs : Renames target s) :
    ∃ q, q.Synced ∧ SetOn p q target (before ++ [s]) ∧ q.find? target ≠ p.find? target ∧
      ∀ {o r}, document.applyAll reserved (settingsOf target after) q = (.ok o, r) →
        document.applyAll reserved (settingsOf target (before ++ s :: after)) p =
          (.ok ({ applied := before.length + 1 } ++ o), r) := by
  obtain ⟨hne, a, e, children, ha, hfirst, -⟩ := h.first_of_has hid
  obtain ⟨q, happly, hq, hnodes, hcount⟩ :=
    applyAll_settings h hne hfirst reserved (keepsId_concat hbefore s)
  have hnode : nodeAt? a q.nodes = some (.element (e.setAll (before ++ [s])) children) := by
    rw [hnodes]
    exact hfirst.nodeAt?_edit _
  refine ⟨q, hq, setOn_of_nodes ha hfirst hnodes hcount, ?_, ?_⟩
  · rw [ha]
    exact find?_ne_of_renamed hq hnode (id?_setAll_concat hs e before)
  · intro o r hafter
    have hsplit : settingsOf target (before ++ s :: after) =
        settingsOf target (before ++ [s]) ++ settingsOf target after := by
      simp [settingsOf]
    -- the settings behind `s` are carried out on `q`, by a look at the id of their own
    rw [hsplit, applyAll_append, Action.bind_of_ok happly, Outcome.goOn_apply rfl, hafter,
      List.length_append]
    rfl

/-- As long as they reach it, `settings` of an element that is part of the page are set on the
    element that the id leads to, and each of them counts as carried out. -/
theorem exists_setOn (h : p.Synced) (hid : p.Has target) (reserved : ReservedIds)
    (hkeeps : KeepsId target settings) : ∃ q, SetOn p q target settings ∧
      document.applyAll reserved (settingsOf target settings) p =
        (.ok { applied := settings.length }, q) := by
  obtain ⟨hne, a, e, children, ha, hfirst, -⟩ := h.first_of_has hid
  obtain ⟨q, happly, -, hnodes, hcount⟩ := applyAll_settings h hne hfirst reserved hkeeps
  exact ⟨q, setOn_of_nodes ha hfirst hnodes hcount, happly⟩

/-- Settings run no scripts: with a host for them, a response whose changes are `settings` does what
    the settings do on the page alone, and the state of the host stays. -/
theorem apply_settings_of_applyAll {reserved : ReservedIds} {changes : ChangeSet}
    (herror : changes.error? = none) (hops : changes.operations = settingsOf target settings)
    {o : Outcome} {r : Page}
    (happly : document.applyAll reserved (settingsOf target settings) p = (.ok o, r)) {σ : Type}
    (host : ScriptHost σ) (state : σ) :
    host.document.apply reserved changes (p, state) = (.ok o, r, state) := by
  have hquiet : ∀ op ∈ settingsOf target settings, op.isQuiet = true := by
    intro op hop
    obtain ⟨s, -, rfl⟩ := List.mem_map.mp hop
    rfl
  rw [apply_of_error?_eq_none _ _ herror, hops, host.alone_applyAll reserved hquiet p state, happly]

theorem Synced.sets (h : p.Synced) (hid : p.Has target) (reserved : ReservedIds)
    {changes : ChangeSet} (herror : changes.error? = none)
    (hops : changes.operations = settingsOf target settings) :
    Sets reserved p target settings changes := by
  have hchanges : document.apply reserved changes =
      document.applyAll reserved (settingsOf target settings) := by
    rw [apply_of_error?_eq_none _ _ herror, hops]
  constructor
  case kept =>
    intro hkeeps
    obtain ⟨q, hset, happly⟩ := exists_setOn h hid reserved hkeeps
    exact ⟨q, hset, apply_settings_of_applyAll herror hops happly⟩
  case lost =>
    rintro before s after rfl hbefore hs
    obtain ⟨q, hq, hset, hfind, hgoes⟩ := applyAll_settings_split h hid reserved hbefore hs
    obtain ⟨o, r, hafter⟩ := exists_applyAll_settings hq reserved target after
    refine ⟨q, o, r, hset, hfind, hafter,
      apply_settings_of_applyAll herror hops (hgoes hafter), fun hnone => ?_⟩
    cases hafter.symm.trans (applyAll_settings_of_not_has hq hnone reserved after)
    exact ⟨rfl, rfl⟩
  case all_iff =>
    intro hunique
    constructor
    · rintro ⟨o, r, happly, hskipped⟩
      by_contra hkeeps
      obtain ⟨before, s, after, rfl, hbefore, hs, hafter⟩ := exists_renames hkeeps
      obtain ⟨q, hq, hset, hfind, hgoes⟩ := applyAll_settings_split h hid reserved hbefore hs
      -- no element has the id any more, so that all that follows is passed over
      have hnone := hset.not_has hq hunique hfind
      have hall := hgoes (applyAll_settings_of_not_has hq hnone reserved after)
      rw [hchanges, hall] at happly
      cases happly
      have hlength := congrArg List.length hskipped
      rw [Outcome.append_def, List.nil_append, List.length_replicate] at hlength
      exact hafter (List.eq_nil_of_length_eq_zero hlength)
    · intro hkeeps
      obtain ⟨q, -, happly⟩ := exists_setOn h hid reserved hkeeps
      exact ⟨_, q, (congrFun hchanges p).trans happly, rfl⟩

end Page

end PagePatch
