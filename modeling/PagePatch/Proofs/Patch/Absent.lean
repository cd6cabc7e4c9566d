import PagePatch.Proofs.Page.Index
import PagePatch.Proofs.Patch.Sequence
import PagePatch.Proofs.Patch.Tokens

namespace PagePatch

/-!
# Changes of absent elements

What a change comes to on a page whose code does nothing is decided by the element that it names:
whether one stands in the page at the moment. Nothing else makes changes fail.

* `Page.Ends` — an action that comes to an answer;
* `Instruction.needs?`, `Page.ends_tell`, `Page.perform_of_not_has` — an instruction and the element
  that it needs;
* `Fate`, `Page.fate`, `Page.meets_applyOne` — what one change comes to;
* `Page.fails_or_goes` — every way in which it can end;
* `Page.reached` — the changes that are reached, each with the page that it is reached on;
* `Page.Judged`, `Page.judged_apply` — the changes of a response.
-/

/-- The id of the element that must be there for an instruction, if one must. A `remove` needs none:
    it finds its element, or there is nothing to do. -/
def Instruction.needs? : Instruction → Option String
  | replaceElement id _ | replaceContent id _ | insertAdjacent id _ _ | setAttribute id _ _ =>
    some id
  | _ => none

namespace Page

variable {α β : Type} {p : Page}

/-! ### Actions that do not fail -/

/-- On the page `p` an action comes to an answer of the kind `P`, and leaves a page with the
    addresses of its ids. -/
def Ends (p : Page) (P : α → Prop) (a : Action Page α) : Prop :=
  ∃ x q, a p = (.ok x, q) ∧ q.Synced ∧ P x

namespace Ends

variable {P : α → Prop} {Q : β → Prop}

/-- An answer `x` ends at once, on the page as it is. -/
protected theorem pure (h : p.Synced) {x : α} (hx : P x) : p.Ends P (pure x) :=
  ⟨x, p, rfl, h, hx⟩

/-- **Composition.** The second action `f` starts on the page that `a` leaves. -/
protected theorem bind {a : Action Page α} {f : α → Action Page β} (ha : p.Ends P a)
    (hf : ∀ (x : α) (q : Page), q.Synced → P x → q.Ends Q (f x)) : p.Ends Q (a >>= f) := by
  obtain ⟨x, q, heq, hq, hx⟩ := ha
  obtain ⟨y, q', heq', hq', hy⟩ := hf x q hq hx
  exact ⟨y, q', (Action.bind_of_ok heq f).trans heq', hq', hy⟩

/-- An action `a` whose answer does not matter ends if the action does. -/
protected theorem discard {a : Action Page α} (ha : p.Ends P a) :
    p.Ends (fun _ => True) (discard a) := by
  rw [Action.discard_eq_bind]
  exact ha.bind fun _ _ hq _ => Ends.pure hq trivial

end Ends

/-! ### Instructions and the elements that they need -/

/-- An element that stands in the page is found by its `id`. -/
theorem find?_of_has (h : p.Synced) {id : String} (hid : p.Has id) : ∃ a, p.find? id = some a :=
  Option.isSome_iff_exists.mp ((h.contains_iff id).mpr hid)

/-- An element that does not stand in the page is not found, as `find?` asks the index and the index
    is true. -/
theorem find?_of_not_has (h : p.Synced) {id : String} (hid : ¬ p.Has id) : p.find? id = none := by
  cases hfind : p.find? id with
  | none => rfl
  | some a => exact absurd ((h.contains_iff id).mp (Option.isSome_iff_exists.mpr ⟨a, hfind⟩)) hid

/-- The edit of an element that is there succeeds, whatever `f` makes of the element. -/
theorem editElement_of_has (h : p.Synced) {id : String} (hid : p.Has id)
    (f : Html.Node → List Html.Node) : (p.editElement id f).1 = .ok true := by
  obtain ⟨a, ha⟩ := find?_of_has h hid
  rw [Page.editElement, ha]

/-- The edit `f` of an element that is not there is a failure, and changes nothing. -/
theorem editElement_of_not_has (h : p.Synced) {id : String} (hid : ¬ p.Has id)
    (f : Html.Node → List Html.Node) :
    p.editElement id f = (.error (.elementNotFound id), p) := by
  rw [Page.editElement, find?_of_not_has h hid]

/-- A removal of `id` tells whether the element was there; if it was not, everything stays as it
    is. -/
theorem perform_remove (h : p.Synced) (id : String) :
    (p.Has id → (p.perform (.remove id)).1 = .ok true) ∧
      (¬ p.Has id → p.perform (.remove id) = (.ok false, p)) := by
  constructor
  · intro hid
    obtain ⟨a, ha⟩ := find?_of_has h hid
    rw [Page.perform, removeElement, ha]
  · intro hid
    rw [Page.perform, removeElement, find?_of_not_has h hid]

/-- The instruction `i` succeeds if the element that it `needs?` is there. -/
theorem ends_tell (h : p.Synced) {i : Instruction} (hi : ∀ id, i.needs? = some id → p.Has id) :
    p.Ends (fun _ => True) (document.tell i) := by
  have hanswer : ∃ x, (p.perform i).1 = .ok x := by
    cases i with
    | replaceElement id markup | replaceContent id markup | setAttribute id name value =>
      exact ⟨true, editElement_of_has h (hi id rfl) _⟩
    | insertAdjacent anchor position markup =>
      cases position with
      | before => exact ⟨true, editElement_of_has h (hi anchor rfl) _⟩
      | after => exact ⟨true, editElement_of_has h (hi anchor rfl) _⟩
    | remove id =>
      by_cases hid : p.Has id
      · exact ⟨true, (perform_remove h id).1 hid⟩
      · exact ⟨false, congrArg Prod.fst ((perform_remove h id).2 hid)⟩
    | replaceRegion region attributes markup => exact ⟨true, rfl⟩
    | runScript code | loadScript address | navigate url | updateViewState token =>
      exact ⟨true, rfl⟩
  obtain ⟨x, hx⟩ := hanswer
  exact ⟨x, (p.perform i).2, Prod.ext hx rfl, h.perform i, trivial⟩

/-- An instruction `i` that needs no element succeeds on every page. -/
theorem ends_tell_freely (h : p.Synced) {i : Instruction} (hi : i.needs? = none) :
    p.Ends (fun _ => True) (discard (document.tell i)) := by
  refine (ends_tell h fun id hid => ?_).discard
  rw [hi] at hid
  cases hid

/-- Without the element `id` that it needs, the instruction `i` fails and changes nothing. -/
theorem perform_of_not_has (h : p.Synced) {i : Instruction} {id : String}
    (hi : i.needs? = some id) (hid : ¬ p.Has id) :
    p.perform i = (.error (.elementNotFound id), p) := by
  cases i with
  | replaceElement id' markup | replaceContent id' markup | setAttribute id' name value =>
    cases hi
    exact editElement_of_not_has h hid _
  | insertAdjacent anchor position markup =>
    cases hi
    cases position with
    | before => exact editElement_of_not_has h hid _
    | after => exact editElement_of_not_has h hid _
  | remove _ | replaceRegion _ _ _ | runScript _ | loadScript _ | navigate _ | updateViewState _ =>
    cases hi

/-- The instruction `i` about an element that is there, so no failure is handed back. -/
theorem ends_tellElement (h : p.Synced) {i : Instruction} {id : String} (hi : i.needs? = some id)
    (hid : p.Has id) : p.Ends (· = none) (document.tellElement i) := by
  have hneeds : ∀ id', i.needs? = some id' → p.Has id' := by
    intro id' hi'
    cases hi.symm.trans hi'
    exact hid
  obtain ⟨x, q, heq, hq, -⟩ := ends_tell h hneeds
  refine ⟨none, q, ?_, hq, rfl⟩
  have hperform : document.perform i p = (.ok x, q) := heq
  simp only [Document.tellElement, hperform]

/-- The instruction `i` about an element that is not there: the failure is handed back, and the page
    is the same. -/
theorem tellElement_of_not_has (h : p.Synced) {i : Instruction} {id : String}
    (hi : i.needs? = some id) (hid : ¬ p.Has id) :
    document.tellElement i p = (.ok (some (.elementNotFound id)), p) := by
  have hperform : document.perform i p = (.error (.elementNotFound id), p) :=
    perform_of_not_has h hi hid
  simp only [Document.tellElement, hperform, Error.isRecoverable, if_true]

/-! ### Changes that are carried out -/

/-- The `scripts` are run to the end, as the code of the page does nothing. -/
theorem ends_runScripts (h : p.Synced) (scripts : List Html.Script) :
    p.Ends (fun _ => True) (document.runScripts scripts) := by
  induction scripts generalizing p with
  | nil => exact Ends.pure h trivial
  | cons script rest ih =>
    refine Ends.bind (P := fun _ => True) ?_ fun _ q hq _ => ih hq
    cases script with
    | inline code => exact ends_tell_freely h rfl
    | external address => exact ends_tell_freely h rfl

/-- A `region` is exchanged, as the page has both of them at all times. -/
theorem ends_replaceRegion (h : p.Synced) (region : Html.Region) (s : Html.Section) :
    p.Ends (fun _ => True) (document.replaceRegion region s) :=
  (ends_tell_freely h rfl).bind fun _ _ hq _ => ends_runScripts hq _

/-- The whole page is exchanged for `markup`, region by region. -/
theorem ends_updateRoot (h : p.Synced) (markup : String) :
    p.Ends (fun _ => True) (document.updateRoot markup) := by
  have hbody : ∀ (b : Bool) {q : Page}, q.Synced → q.Ends (fun _ => True)
      (if b then document.replaceRegion .body (Document.sectionOf .body markup) else pure ()) := by
    intro b q hq
    cases b with
    | true => exact ends_replaceRegion hq .body _
    | false => exact Ends.pure hq trivial
  unfold Document.updateRoot
  cases Html.section? .head markup with
  | none => exact hbody _ h
  | some s => exact (ends_replaceRegion h .head s).bind fun _ _ hq _ => hbody _ hq

/-- The page answers whether an element stands in it, by the addresses of `id` that it keeps. -/
theorem asks_eq (h : p.Synced) (id : String) :
    document.asks id p = (.ok (decide (p.Has id)), p) := by
  have hcontains : p.contains id = decide (p.Has id) := by
    rw [Bool.eq_iff_iff, decide_eq_true_iff]
    exact h.contains_iff id
  rw [← hcontains]
  rfl

/-- An update of an element `target` that is there is carried out: the instruction finds the
    element, and the scripts run. -/
theorem ends_updateElement (h : p.Synced) {target : String} (hid : p.Has target)
    (markup : String) : p.Ends (· = .done) (document.updateElement target markup) := by
  -- the element is replaced or filled, and then the scripts are run
  have htold : ∀ {i : Instruction}, i.needs? = some target →
      p.Ends (· = .done) (do
        discard (document.tell i)
        document.runScripts (Html.scriptsOf (Html.parseFragment markup))
        pure Outcome.done) := by
    intro i hi
    refine (ends_tell h fun id hid' => ?_).discard.bind fun _ q hq _ =>
      (ends_runScripts hq _).bind fun _ _ hq' _ => Ends.pure hq' rfl
    cases hi.symm.trans hid'
    exact hid
  obtain ⟨x, q, heq, hq, hx⟩ : p.Ends (· = .done) (do
      if Html.soleId? (Html.parseFragment markup) = some target then
        discard (document.tell (.replaceElement target markup))
      else
        discard (document.tell (.replaceContent target markup))
      document.runScripts (Html.scriptsOf (Html.parseFragment markup))
      pure Outcome.done) := by
    by_cases hsole : Html.soleId? (Html.parseFragment markup) = some target
    · simp only [hsole, if_true]
      exact htold rfl
    · simp only [hsole, if_false]
      exact htold rfl
  refine ⟨x, q, ?_, hq, hx⟩
  have hasks := asks_eq h target
  rw [decide_eq_true hid] at hasks
  exact (Action.bind_of_ok hasks _).trans heq

end Page

/-! ### What changes come to -/

/-- What a change comes to, as far as the element that it names decides it; `Page.fate` tells
    which. -/
inductive Fate where
  /-- It is carried out, and counts as applied. -/
  | done
  /-- There is nothing to do, and nobody is told. -/
  | nothing
  /-- It is passed over, and the outcome tells why. -/
  | passed (e : Error)
  /-- It fails, and the changes behind it are not reached. -/
  | fails (e : Error)
  deriving DecidableEq, Repr

/-- Why a change is passed over, if its fate is `passed`. -/
def Fate.passed? : Fate → Option Error
  | passed e => some e
  | _ => none

/-- Why a change fails, if its fate is `fails`. -/
def Fate.failed? : Fate → Option Error
  | fails e => some e
  | _ => none

/-- A change fails for the reason `e` exactly if that is its fate `f`. -/
theorem Fate.failed?_eq_some_iff {f : Fate} {e : Error} : f.failed? = some e ↔ f = .fails e := by
  cases f <;> simp [failed?]

namespace Page

variable {p : Page}

/-- What a change comes to on the page `p`, by the element that it names. Updates of the reserved
    ids name no element. -/
def fate (reserved : ReservedIds) (p : Page) : Operation → Fate
  | .update target _ =>
    if reserved.classify target = .element ∧ ¬ p.Has target then .passed (.elementNotFound target)
    else .done
  | .insert id _ anchor _ =>
    if p.Has anchor then .done else .fails (.anchorNotFound anchor (id.getD "insert"))
  | .delete target => if p.Has target then .done else .nothing
  | .setAttribute target _ _ => if p.Has target then .done else .passed (.elementNotFound target)
  | .eval _ | .redirect _ => .done
  | .error .. => .nothing

/-- Only an `insert` fails, and it does so without its anchor. -/
theorem fate_eq_fails_iff {reserved : ReservedIds} {op : Operation} {e : Error} :
    p.fate reserved op = .fails e ↔ ∃ id position anchor markup,
      op = .insert id position anchor markup ∧ ¬ p.Has anchor ∧
        e = .anchorNotFound anchor (id.getD "insert") := by
  cases op with
  | insert id position anchor markup =>
    by_cases hanchor : p.Has anchor
    · simp [fate, hanchor]
    · simp [fate, hanchor, eq_comm]
  | update target markup =>
    simp only [fate]
    split <;> simp
  | delete target | setAttribute target name value =>
    simp only [fate]
    split <;> simp
  | eval code | redirect url | error name message => simp [fate]

/-- Whether the change is a `delete` of an element that is not there. -/
def removesNothing (p : Page) : Operation → Bool
  | .delete target => !decide (p.Has target)
  | _ => false

/-- Among changes without an error report, only those that `removesNothing` tells come to
    nothing. -/
theorem fate_eq_nothing_iff {reserved : ReservedIds} {op : Operation}
    (herror : op.errorReport? = none) :
    p.fate reserved op = .nothing ↔ p.removesNothing op = true := by
  cases op with
  | error name message => cases herror
  | delete target =>
    by_cases hid : p.Has target
    · simp [fate, removesNothing, hid]
    · simp [fate, removesNothing, hid]
  | update target markup | insert id position anchor markup | setAttribute target name value =>
    simp only [fate, removesNothing]
    split <;> simp
  | eval code | redirect url => simp [fate, removesNothing]

/-- The page `p` meets the fate of the change `op` when `op` is applied by the action `a`. -/
def Meets (p : Page) (op : Operation) (a : Action Page Outcome) : Fate → Prop
  | .done => p.Ends (fun o => o.applied = 1 ∧ o.skipped = [] ∧ o.redirect.isSome = op.leaves) a
  | .nothing => a p = (.ok {}, p)
  | .passed e => a p = (.ok (.skip e), p)
  | .fails e => a p = (.error e, p)

/-- An update meets its fate: one of a region or of the token is carried out, one of the element
    `target` if it is there. -/
theorem meets_applyUpdate (h : p.Synced) (reserved : ReservedIds) (target markup : String) :
    p.Meets (.update target markup) (document.applyUpdate reserved target markup)
      (p.fate reserved (.update target markup)) := by
  have hdone : ∀ {q : Page}, q.Synced → q.Ends (fun o : Outcome => o.applied = 1 ∧
      o.skipped = [] ∧ o.redirect.isSome = (Operation.update target markup).leaves)
      (pure Outcome.done) := fun hq => Ends.pure hq ⟨rfl, rfl, rfl⟩
  simp only [fate, Document.applyUpdate]
  cases hclass : reserved.classify target with
  | viewState =>
    exact (ends_tell_freely h rfl).bind fun _ _ hq _ => Ends.pure hq ⟨rfl, rfl, rfl⟩
  | head => exact (ends_replaceRegion h .head _).bind fun _ _ hq _ => hdone hq
  | body => exact (ends_replaceRegion h .body _).bind fun _ _ hq _ => hdone hq
  | root => exact (ends_updateRoot h markup).bind fun _ _ hq _ => hdone hq
  | element =>
    by_cases hid : p.Has target
    · obtain ⟨o, q, heq, hq, rfl⟩ := ends_updateElement h hid markup
      simp only [hid, not_true, and_false, if_false]
      exact ⟨.done, q, heq, hq, rfl, rfl, rfl⟩
    · simp only [hid, not_false_iff, and_self, if_true]
      have hasks := asks_eq h target
      rw [decide_eq_false hid] at hasks
      exact Action.bind_of_ok hasks _

/-- An insert meets its fate: it fails exactly without its `anchor`. -/
theorem meets_applyInsert (h : p.Synced) (reserved : ReservedIds) (id : Option String)
    (position : InsertPosition) (anchor markup : String) :
    p.Meets (.insert id position anchor markup)
      (document.applyInsert id position anchor markup)
      (p.fate reserved (.insert id position anchor markup)) := by
  unfold Document.applyInsert
  by_cases hanchor : p.Has anchor
  · simp only [fate, hanchor, if_true]
    refine (ends_tellElement h rfl hanchor).bind fun missing q hq hnone => ?_
    rw [hnone]
    exact (ends_runScripts hq _).bind fun _ _ hq' _ => Ends.pure hq' ⟨rfl, rfl, rfl⟩
  · simp only [fate, hanchor, if_false]
    exact Action.bind_of_ok (tellElement_of_not_has h rfl hanchor) _

/-- A change of an attribute meets its fate: it is passed over without the element `target`. -/
theorem meets_applyAttribute (h : p.Synced) (reserved : ReservedIds)
    (target name value : String) :
    p.Meets (.setAttribute target name value) (document.applyAttribute target name value)
      (p.fate reserved (.setAttribute target name value)) := by
  unfold Document.applyAttribute
  by_cases hid : p.Has target
  · simp only [fate, hid, if_true]
    refine (ends_tellElement h rfl hid).bind fun missing q hq hnone => ?_
    rw [hnone]
    exact Ends.pure hq ⟨rfl, rfl, rfl⟩
  · simp only [fate, hid, if_false]
    exact Action.bind_of_ok (tellElement_of_not_has h rfl hid) _

/-- Every change `op` meets its fate: it comes to what the elements of the page say. -/
theorem meets_applyOne (h : p.Synced) (reserved : ReservedIds) (op : Operation) :
    p.Meets op (document.applyOne reserved op) (p.fate reserved op) := by
  cases op with
  | update target markup => exact meets_applyUpdate h reserved target markup
  | insert id position anchor markup => exact meets_applyInsert h reserved id position anchor markup
  | setAttribute target name value => exact meets_applyAttribute h reserved target name value
  | delete target =>
    -- a removal is the one change that may come to nothing
    by_cases hid : p.Has target
    · simp only [fate, hid, if_true]
      have htold : document.tell (.remove target) p =
          (.ok true, (p.perform (.remove target)).2) :=
        Prod.ext ((perform_remove h target).1 hid) rfl
      exact ⟨.done, _, Action.bind_of_ok htold _, h.perform _, rfl, rfl, rfl⟩
    · simp only [fate, hid, if_false]
      have htold : document.tell (.remove target) p = (.ok false, p) :=
        (perform_remove h target).2 hid
      exact Action.bind_of_ok htold _
  | eval code =>
    exact (ends_tell_freely h (i := .runScript code) rfl).bind fun _ _ hq _ =>
      Ends.pure hq ⟨rfl, rfl, rfl⟩
  | redirect url =>
    exact (ends_tell_freely h (i := .navigate url) rfl).bind fun _ _ hq _ =>
      Ends.pure hq ⟨rfl, rfl, rfl⟩
  | error name message => exact rfl

/-- What comes of the change `op` when it does not fail, with the outcome `o` and the page `q`
    afterwards. -/
structure Goes (reserved : ReservedIds) (p : Page) (op : Operation) (o : Outcome) (q : Page) :
    Prop where
  /-- It comes to the outcome `o`, and leaves `q`. -/
  ran : document.applyOne reserved op p = (.ok o, q)
  /-- The page keeps the addresses of its ids. -/
  synced : q.Synced
  /-- Only a redirect leaves the page. -/
  left : o.redirect.isSome = op.leaves
  /-- It is passed over exactly if that is its fate, with the reason. -/
  skipped : o.skipped = (p.fate reserved op).passed?.toList
  /-- It is carried out, passed over or nothing, and only one of the three. -/
  counted : o.applied + o.skipped.length + (if p.fate reserved op = .nothing then 1 else 0) = 1

/-- A redirect `op` is carried out on every page. -/
theorem fate_of_leaves (reserved : ReservedIds) {op : Operation} (h : op.leaves = true) :
    p.fate reserved op = .done := by
  cases op with
  | redirect url => rfl
  | update _ _ | insert _ _ _ _ | delete _ | setAttribute _ _ _ | eval _ | error _ _ => cases h

/-- The change `op` fails and leaves the page as it is, or comes to an outcome `o`. All that follows
    about rows of changes splits here. -/
theorem fails_or_goes (h : p.Synced) (reserved : ReservedIds) (op : Operation) :
    (∃ e, p.fate reserved op = .fails e ∧ document.applyOne reserved op p = (.error e, p)) ∨
      ((p.fate reserved op).failed? = none ∧ ∃ o q, Goes reserved p op o q) := by
  have hmeets := meets_applyOne h reserved op
  have hstays : p.fate reserved op ≠ .done → false = op.leaves := by
    intro hfate
    cases hleaves : op.leaves with
    | false => rfl
    | true => exact absurd (fate_of_leaves reserved hleaves) hfate
  -- the fate decides; only what is carried out has an outcome of its own
  cases hfate : p.fate reserved op with
  | fails e =>
    rw [hfate] at hmeets
    exact .inl ⟨e, rfl, hmeets⟩
  | done =>
    rw [hfate] at hmeets
    obtain ⟨o, q, heq, hq, happlied, hskipped, hleft⟩ := hmeets
    refine .inr ⟨rfl, o, q, heq, hq, hleft, ?_, ?_⟩
    · rw [hskipped, hfate]
      rfl
    · rw [happlied, hskipped, hfate]
      rfl
  | nothing =>
    rw [hfate] at hmeets hstays
    refine .inr ⟨rfl, {}, p, hmeets, h, hstays nofun, ?_, ?_⟩
    · rw [hfate]
      rfl
    · rw [hfate]
      rfl
  | passed e =>
    rw [hfate] at hmeets hstays
    refine .inr ⟨rfl, .skip e, p, hmeets, h, hstays nofun, ?_, ?_⟩
    · rw [hfate]
      rfl
    · rw [hfate]
      rfl

/-! ### Changes in order -/

/-- The changes that are reached from `p`, each with the page that it is reached on: none comes
    behind a failure or a redirect. -/
def reached (reserved : ReservedIds) (p : Page) : List Operation → List (Page × Operation)
  | [] => []
  | op :: rest =>
    (p, op) ::
      if (p.fate reserved op).failed?.isSome || op.leaves then []
      else reached reserved (document.applyOne reserved op p).2 rest

variable {reserved : ReservedIds} {op : Operation} {rest : List Operation} {o : Outcome} {q : Page}

/-- Behind a change `op` that fails none is reached. -/
theorem reached_of_fails {e : Error} (hfate : p.fate reserved op = .fails e) :
    p.reached reserved (op :: rest) = [(p, op)] := by
  rw [reached, hfate]
  rfl

/-- Nor is one behind a redirect `op`. -/
theorem reached_of_leaves (hleaves : op.leaves = true) :
    p.reached reserved (op :: rest) = [(p, op)] := by
  rw [reached, hleaves, Bool.or_true]
  rfl

/-- Behind any other change `op` the next ones are reached, on the page `q` that it left. -/
theorem Goes.reached (h : Goes reserved p op o q) (hfate : (p.fate reserved op).failed? = none)
    (hstays : op.leaves = false) :
    p.reached reserved (op :: rest) = (p, op) :: q.reached reserved rest := by
  rw [Page.reached, hfate, hstays, h.ran]
  rfl

/-- Behind a redirect `op` there are no changes to apply, whatever `rest` is. -/
theorem Goes.applyAll_of_leaves (h : Goes reserved p op o q) (hleaves : op.leaves = true)
    (rest : List Operation) : document.applyAll reserved (op :: rest) p = (.ok o, q) := by
  rw [applyAll_cons, Action.bind_of_ok h.ran, Outcome.goOn_of_left (h.left.trans hleaves)]
  rfl

/-- Behind another change `op`, the `rest` is applied, and the outcomes are joined. -/
theorem Goes.applyAll_cons (h : Goes reserved p op o q) (hstays : op.leaves = false)
    (rest : List Operation) :
    document.applyAll reserved (op :: rest) p =
      match document.applyAll reserved rest q with
      | (.ok later, t) => (.ok (o ++ later), t)
      | (.error e, t) => (.error e, t) := by
  have hleft : o.redirect = none :=
    Option.not_isSome_iff_eq_none.mp (by rw [h.left, hstays]; exact Bool.false_ne_true)
  rw [PagePatch.applyAll_cons, Action.bind_of_ok h.ran, Outcome.goOn_apply hleft]
  rcases document.applyAll reserved rest q with ⟨e | later, t⟩ <;> rfl

/-- A change that is `reached` is reached on a page with the addresses of its ids. -/
theorem synced_reached (h : p.Synced) (ops : List Operation) :
    ∀ x ∈ p.reached reserved ops, x.1.Synced := by
  induction ops generalizing p with
  | nil => exact List.forall_mem_nil _
  | cons op rest ih =>
    have hhead : ∀ x ∈ [(p, op)], x.1.Synced := List.forall_mem_singleton.mpr h
    rcases fails_or_goes h reserved op with ⟨e, hfate, -⟩ | ⟨hfate, o, q, hgoes⟩
    · rwa [reached_of_fails hfate]
    · cases hleaves : op.leaves with
      | true => rwa [reached_of_leaves hleaves]
      | false =>
        rw [hgoes.reached hfate hleaves]
        exact List.forall_mem_cons.mpr ⟨h, ih hgoes.synced⟩

/-- A change that is `reached` and fails ends the changes, and the page is as it was found by it. -/
theorem applyAll_of_fails (h : p.Synced) {ops : List Operation} {x : Page × Operation} {e : Error}
    (hx : x ∈ p.reached reserved ops) (hfails : x.1.fate reserved x.2 = .fails e) :
    document.applyAll reserved ops p = (.error e, x.1) := by
  induction ops generalizing p with
  | nil => cases hx
  | cons op rest ih =>
    -- the failure is that of the change at the front, or it lies behind this change
    rcases fails_or_goes h reserved op with ⟨e', hfate, hran⟩ | ⟨hfate, o, q, hgoes⟩
    · rw [reached_of_fails hfate] at hx
      cases List.mem_singleton.mp hx
      cases hfate.symm.trans hfails
      rw [applyAll_cons, Action.bind_of_error hran]
    · -- this one goes on, so that the failure is one of those behind it
      have hother : x ≠ (p, op) := by
        rintro rfl
        rw [hfails] at hfate
        cases hfate
      cases hleaves : op.leaves with
      | true =>
        rw [reached_of_leaves hleaves] at hx
        exact absurd (List.mem_singleton.mp hx) hother
      | false =>
        rw [hgoes.reached hfate hleaves] at hx
        have hlater := (List.mem_cons.mp hx).resolve_left hother
        rw [hgoes.applyAll_cons hleaves, ih hgoes.synced hlater]

/-- When no change fails that is `reached`, all those up to the first redirect are, and each is
    carried out, passed over or nothing. -/
theorem applyAll_of_not_fails (h : p.Synced) {ops : List Operation}
    (hgo : ∀ x ∈ p.reached reserved ops, (x.1.fate reserved x.2).failed? = none) :
    ∃ o q, document.applyAll reserved ops p = (.ok o, q) ∧
      (p.reached reserved ops).map Prod.snd = upToLeaving ops ∧
      o.skipped = (p.reached reserved ops).filterMap (fun x => (x.1.fate reserved x.2).passed?) ∧
      o.applied + o.skipped.length +
        (p.reached reserved ops).countP (fun x => x.1.fate reserved x.2 = .nothing) =
          (p.reached reserved ops).length := by
  induction ops generalizing p with
  | nil => exact ⟨{}, p, rfl, rfl, rfl, rfl⟩
  | cons op rest ih =>
    -- no change fails, so only the second way is left, and a redirect ends the list
    rcases fails_or_goes h reserved op with ⟨e, hfate, -⟩ | ⟨hfate, o, q, hgoes⟩
    · rw [reached_of_fails hfate] at hgo
      have hnone := hgo _ (List.mem_singleton_self _)
      rw [hfate] at hnone
      cases hnone
    · have hskipped := hgoes.skipped
      have hcounted := hgoes.counted
      cases hleaves : op.leaves with
      | true =>
        rw [reached_of_leaves hleaves]
        refine ⟨o, q, hgoes.applyAll_of_leaves hleaves rest, ?_, ?_, ?_⟩
        · simp [upToLeaving, hleaves]
        · rw [hskipped]
          cases hpassed : (p.fate reserved op).passed? <;> simp [hpassed]
        · simpa [List.countP_cons] using hcounted
      | false =>
        rw [hgoes.reached hfate hleaves, List.forall_mem_cons] at hgo
        rw [hgoes.reached hfate hleaves, hgoes.applyAll_cons hleaves]
        obtain ⟨later, t, hlater, hall, hpassed, hcount⟩ := ih hgoes.synced hgo.2
        refine ⟨o ++ later, t, by rw [hlater], ?_, ?_, ?_⟩
        · simp [upToLeaving, hleaves, hall]
        · show o.skipped ++ later.skipped = _
          rw [hskipped, hpassed, List.filterMap_cons]
          cases (p.fate reserved op).passed? <;> rfl
        · show o.applied + later.applied + (o.skipped ++ later.skipped).length + _ = _
          simp only [List.length_append, List.countP_cons, List.length_cons, decide_eq_true_iff]
          omega

/-- A change `x` is reached on the page that those `before` it leave, none of which is a
    redirect. -/
theorem applyAll_before (h : p.Synced) {ops : List Operation}
    {before later : List (Page × Operation)} {x : Page × Operation}
    (hsplit : p.reached reserved ops = before ++ x :: later) :
    (∃ after, ops = before.map Prod.snd ++ x.2 :: after) ∧
      ∃ o, document.applyAll reserved (before.map Prod.snd) p = (.ok o, x.1) ∧
        o.redirect = none := by
  induction ops generalizing p before with
  | nil => cases before <;> cases hsplit
  | cons op rest ih =>
    cases before with
    | nil =>
      obtain ⟨hhead, -⟩ := List.cons_eq_cons.mp hsplit
      rw [← hhead]
      exact ⟨⟨rest, rfl⟩, {}, rfl, rfl⟩
    | cons y before =>
      -- something is reached behind this change, so that it goes on and stays on the page
      rcases fails_or_goes h reserved op with ⟨e, hfate, -⟩ | ⟨hfate, o, q, hgoes⟩
      · rw [reached_of_fails hfate] at hsplit
        cases before <;> cases hsplit
      · cases hleaves : op.leaves with
        | true =>
          rw [reached_of_leaves hleaves] at hsplit
          cases before <;> cases hsplit
        | false =>
          rw [hgoes.reached hfate hleaves] at hsplit
          obtain ⟨rfl, htail⟩ := List.cons_eq_cons.mp hsplit
          obtain ⟨⟨after, hrest⟩, o', hrun, hstay⟩ := ih hgoes.synced htail
          refine ⟨⟨after, by rw [hrest]; rfl⟩, o ++ o', ?_, ?_⟩
          · rw [List.map_cons, hgoes.applyAll_cons hleaves, hrun]
          · have hleft : o.redirect = none :=
              Option.not_isSome_iff_eq_none.mp (by rw [hgoes.left, hleaves]; nofun)
            rw [Outcome.append_def, hleft, hstay]
            rfl

/-- An outcome `o` holds all changes up to the first redirect, by what became of each of them. -/
theorem counted_of_ok (h : p.Synced) {ops : List Operation} {o : Outcome}
    (ho : (document.applyAll reserved ops p).1 = .ok o) :
    (p.reached reserved ops).map Prod.snd = upToLeaving ops ∧
      o.skipped = (p.reached reserved ops).filterMap (fun x => (x.1.fate reserved x.2).passed?) ∧
      o.applied + o.skipped.length +
        (p.reached reserved ops).countP (fun x => x.1.fate reserved x.2 = .nothing) =
          (p.reached reserved ops).length := by
  have hgo : ∀ x ∈ p.reached reserved ops, (x.1.fate reserved x.2).failed? = none := by
    intro x hx
    rw [Option.eq_none_iff_forall_ne_some]
    intro e he
    rw [applyAll_of_fails h hx (Fate.failed?_eq_some_iff.mp he)] at ho
    cases ho
  obtain ⟨o', q, heq, hall⟩ := applyAll_of_not_fails h hgo
  rw [heq] at ho
  cases ho
  exact hall

/-- A failure comes from an `insert` that is reached without its anchor, as nothing else fails. -/
theorem exists_insert_of_error (h : p.Synced) {ops : List Operation} {e : Error}
    (he : (document.applyAll reserved ops p).1 = .error e) :
    ∃ q id position anchor markup,
      (q, .insert id position anchor markup) ∈ p.reached reserved ops ∧ ¬ q.Has anchor := by
  by_contra hnone
  have hgo : ∀ x ∈ p.reached reserved ops, (x.1.fate reserved x.2).failed? = none := by
    rintro ⟨q, op⟩ hx
    rw [Option.eq_none_iff_forall_ne_some]
    intro e' he'
    obtain ⟨id, position, anchor, markup, rfl, hanchor, -⟩ :=
      fate_eq_fails_iff.mp (Fate.failed?_eq_some_iff.mp he')
    exact hnone ⟨q, id, position, anchor, markup, hx, hanchor⟩
  obtain ⟨o, q, heq, -⟩ := applyAll_of_not_fails h hgo
  rw [heq] at he
  cases he

/-- An `insert` that is reached without its anchor is a failure of all the changes. -/
theorem applyAll_of_insert (h : p.Synced) {ops : List Operation} {q : Page} {id : Option String}
    {position : InsertPosition} {anchor markup : String}
    (hx : (q, .insert id position anchor markup) ∈ p.reached reserved ops)
    (hanchor : ¬ q.Has anchor) :
    document.applyAll reserved ops p = (.error (.anchorNotFound anchor (id.getD "insert")), q) :=
  applyAll_of_fails h hx (if_neg hanchor)

/-- Without error reports, what comes to nothing among the changes that are `reached` are removals
    of nothing. -/
theorem fate_eq_nothing_iff_of_reached (h : p.Synced) {ops : List Operation}
    (herror : ∀ op ∈ ops, op.errorReport? = none) {x : Page × Operation}
    (hx : x ∈ p.reached reserved ops) :
    x.1.fate reserved x.2 = .nothing ↔ x.1.removesNothing x.2 = true := by
  obtain ⟨before, later, hsplit⟩ := List.append_of_mem hx
  obtain ⟨⟨after, hops⟩, -⟩ := applyAll_before h hsplit
  refine fate_eq_nothing_iff (herror x.2 ?_)
  rw [hops]
  exact List.mem_append_right _ List.mem_cons_self

/-! ### The changes of a response -/

/-- What comes of the changes `ops` on a page `p` whose code does nothing. -/
structure Judged (reserved : ReservedIds) (p : Page) (ops : List Operation)
    (r : Except Error Outcome × Page) : Prop where
  /-- They fail exactly if an insert is reached whose anchor does not stand in the page then. -/
  fails_iff : (∃ e, r.1 = .error e) ↔ ∃ q id position anchor markup,
    (q, .insert id position anchor markup) ∈ p.reached reserved ops ∧ ¬ q.Has anchor
  /-- The failure names the anchor and the insert, and leaves the page as the insert found it. -/
  lost : ∀ q id position anchor markup,
    (q, .insert id position anchor markup) ∈ p.reached reserved ops → ¬ q.Has anchor →
      r = (.error (.anchorNotFound anchor (id.getD "insert")), q)
  /-- A change is reached on the page that is left by those before it, none of which fails or is a
      redirect. -/
  before : ∀ before q op later, p.reached reserved ops = before ++ (q, op) :: later →
    (∃ after, ops = before.map Prod.snd ++ op :: after) ∧
      ∃ o, document.applyAll reserved (before.map Prod.snd) p = (.ok o, q) ∧ o.redirect = none
  /-- A change that is passed over leaves the page as it is, and is told. -/
  passed : ∀ q op e, (q, op) ∈ p.reached reserved ops → q.fate reserved op = .passed e →
    document.applyOne reserved op q = (.ok (.skip e), q)
  /-- A removal of nothing leaves the page as it is, and is neither carried out nor told. -/
  nothing : ∀ q op, (q, op) ∈ p.reached reserved ops → q.removesNothing op = true →
    document.applyOne reserved op q = (.ok {}, q)
  /-- Without a failure, all changes up to the first redirect are reached. -/
  all : ∀ o, r.1 = .ok o → (p.reached reserved ops).map Prod.snd = upToLeaving ops
  /-- Those that are passed over are told, in order, each with the element that is missing. -/
  skipped : ∀ o, r.1 = .ok o → o.skipped =
    (p.reached reserved ops).filterMap fun x => (x.1.fate reserved x.2).passed?
  /-- Every change up to the first redirect is carried out, passed over, or a removal of nothing. -/
  counted : ∀ o, r.1 = .ok o → o.applied + o.skipped.length +
    (p.reached reserved ops).countP (fun x => x.1.removesNothing x.2) = (upToLeaving ops).length

/-- On a page with the addresses of its ids the changes come to what `Judged` says. -/
theorem Synced.judged_applyAll (h : p.Synced) {ops : List Operation}
    (herror : ∀ op ∈ ops, op.errorReport? = none) :
    Judged reserved p ops (document.applyAll reserved ops p) := by
  -- each change that is reached meets its fate on the page where it is reached
  have hmeets : ∀ q op, (q, op) ∈ p.reached reserved ops →
      q.Meets op (document.applyOne reserved op) (q.fate reserved op) := by
    intro q op hx
    exact meets_applyOne (synced_reached h ops (q, op) hx) reserved op
  constructor
  case fails_iff =>
    constructor
    · rintro ⟨e, he⟩
      exact exists_insert_of_error h he
    · rintro ⟨q, id, position, anchor, markup, hx, hanchor⟩
      exact ⟨_, congrArg Prod.fst (applyAll_of_insert h hx hanchor)⟩
  case lost =>
    intro q id position anchor markup hx hanchor
    exact applyAll_of_insert h hx hanchor
  case before =>
    intro before q op later hsplit
    exact applyAll_before h hsplit
  case passed =>
    intro q op e hx hfate
    have hq := hmeets q op hx
    rwa [hfate] at hq
  case nothing =>
    intro q op hx hfate
    have hq := hmeets q op hx
    rwa [(fate_eq_nothing_iff_of_reached h herror hx).mpr hfate] at hq
  case all =>
    intro o ho
    exact (counted_of_ok h ho).1
  case skipped =>
    intro o ho
    exact (counted_of_ok h ho).2.1
  case counted =>
    intro o ho
    obtain ⟨hall, -, hcount⟩ := counted_of_ok h ho
    have hsame : (p.reached reserved ops).countP (fun x => x.1.removesNothing x.2) =
        (p.reached reserved ops).countP (fun x => x.1.fate reserved x.2 = .nothing) := by
      refine List.countP_congr fun x hx => ?_
      rw [decide_eq_true_iff]
      exact (fate_eq_nothing_iff_of_reached h herror hx).symm
    rw [hsame, hcount, ← hall, List.length_map]

/-- **Absent elements.** Whatever a page of `html` was told before by `is`, changes without an error
    report fail only for want of the anchor of an insert; all other changes are carried out, or
    passed over, or removals of nothing. -/
theorem judged_apply (reserved : ReservedIds) (html : String) (is : List Instruction)
    {changes : ChangeSet} (h : changes.error? = none) :
    Judged reserved ((ofHtml html).performAll is) changes.operations
      (document.apply reserved changes ((ofHtml html).performAll is)) := by
  rw [apply_of_error?_eq_none document reserved h]
  exact ((synced_ofHtml html).performAll is).judged_applyAll (List.findSome?_eq_none_iff.mp h)

/-- The insert of `lostAnchor` next to an element that the same response has removed fails. -/
theorem judged_lostAnchor :
    ChangeSet.lostAnchor.error? = none ∧
      Judged {} ((ofHtml "<p id=p></p>").performAll [.setAttribute "p" "class" "x"])
        ChangeSet.lostAnchor.operations
        (document.apply {} ChangeSet.lostAnchor
          ((ofHtml "<p id=p></p>").performAll [.setAttribute "p" "class" "x"])) ∧
      (document.apply {} ChangeSet.lostAnchor
        ((ofHtml "<p id=p></p>").performAll [.setAttribute "p" "class" "x"])).2.html =
          "<html><head></head><body></body></html>" := by
  refine ⟨rfl, judged_apply {} "<p id=p></p>" [.setAttribute "p" "class" "x"] rfl, ?_⟩
  decide +kernel

end Page

end PagePatch
