import PagePatch.Proofs.Patch.Root
import PagePatch.Proofs.Patch.Sequence

namespace PagePatch

/-!
# Transcripts of changes

A transcribed document keeps what it was told together with its answers. The transcript of a
change-set is made of one block for each change that was reached: the instructions of the change,
each instruction with markup directly followed by the scripts in that markup, up to the first
failure. So every script runs once, right after its markup is in the document, and no other code is
run but that of the changes that ask for it.

* `DocumentCall`, `Document.transcribed` — a document that keeps its calls;
* `Operation.plans` — the instructions that a change may come to;
* `UpToFailure` — instructions that are given one after another up to the first failure;
* `ScriptsFollow` — scripts that are run right behind their markup;
* `Traced` — a transcript block by block;
* `transcript_apply` — the transcript of a change-set.
-/

/-- What a document was told, and its answer: a transcript keeps both, unlike the log of
    `Document.noted`. -/
structure DocumentCall where
  /-- What the document was told. -/
  instruction : Instruction
  /-- What it answered: a failure, or whether there was something to change. -/
  answer : Except Error Bool

/-- The call `c` did not fail. It may have found nothing to change all the same. -/
def DocumentCall.Succeeds (c : DocumentCall) : Prop :=
  ∃ found, c.answer = .ok found

/-- The document `d` that also keeps what it was told with its answers, the last call last. -/
def Document.transcribed {σ : Type} (d : Document σ) : Document (σ × List DocumentCall) where
  contains s id := d.contains s.1 id
  perform i s :=
    let (answer, state) := d.perform i s.1
    (answer, state, s.2 ++ [⟨i, answer⟩])

/-! ### The instructions of a change -/

/-- The instruction `i`, and right behind it the scripts in the markup that it brings into the
    document. -/
def Instruction.withScripts (i : Instruction) : List Instruction :=
  i :: (i.markup?.map Html.scriptPlan).getD []

/-- The instructions of an update of the whole page with `markup`: the head if there is one, and
    then the body, unless there is a head and no body. -/
def rootPlan (markup : String) : List Instruction :=
  let head := Html.section? .head markup
  let body := Document.sectionOf .body markup
  (head.map fun s => .replaceRegion .head s.attributes s.inner).toList ++
    if head.isNone || (Html.section? .body markup).isSome then
      [.replaceRegion .body body.attributes body.inner]
    else []

/-- The instructions that a change may come to, apart from scripts in markup. An `update` of an
    element comes to none if the element is missing. -/
def Operation.plans (reserved : ReservedIds) : Operation → List (List Instruction)
  | .update target markup =>
    match reserved.classify target with
    | .viewState => [[.updateViewState (Text.trim markup)]]
    | .head =>
      let s := Document.sectionOf .head markup
      [[.replaceRegion .head s.attributes s.inner]]
    | .body =>
      let s := Document.sectionOf .body markup
      [[.replaceRegion .body s.attributes s.inner]]
    | .root => [rootPlan markup]
    | .element => [[], [.replaceElement target markup], [.replaceContent target markup]]
  | .insert _ position anchor markup => [[.insertAdjacent anchor position markup]]
  | .delete target => [[.remove target]]
  | .setAttribute target name value => [[.setAttribute target name value]]
  | .eval code => [[.runScript code]]
  | .redirect url => [[.navigate url]]
  | .error .. => [[]]

/-! ### Up to the first failure -/

/-- The calls of the instructions of a plan that are given one after another, up to the first
    failure, which is the last call then. -/
inductive UpToFailure : List Instruction → List DocumentCall → Prop
  /-- All of them were given. -/
  | finished : UpToFailure [] []
  /-- This one failed, and the others are not given. -/
  | failed {i : Instruction} {rest : List Instruction} {e : Error} :
      UpToFailure (i :: rest) [⟨i, .error e⟩]
  /-- This one did not fail. -/
  | given {i : Instruction} {rest : List Instruction} {found : Bool} {calls : List DocumentCall}
      (hrest : UpToFailure rest calls) : UpToFailure (i :: rest) (⟨i, .ok found⟩ :: calls)

namespace UpToFailure

variable {plan plan' : List Instruction} {calls later : List DocumentCall}

/-- One instruction `i`, whether or not it failed, was given up to the first failure. -/
theorem singleton (i : Instruction) (answer : Except Error Bool) :
    UpToFailure [i] [⟨i, answer⟩] := by
  cases answer with
  | error e => exact .failed
  | ok found => exact .given .finished

/-- Where nothing failed in `calls`, other instructions can follow. -/
theorem append (h : UpToFailure plan calls) (hall : ∀ c ∈ calls, c.Succeeds)
    (hlater : UpToFailure plan' later) : UpToFailure (plan ++ plan') (calls ++ later) := by
  induction h with
  | finished => exact hlater
  | failed =>
    obtain ⟨_, hfound⟩ := hall _ (List.mem_singleton_self _)
    cases hfound
  | given _ ih => exact .given (ih fun c hc => hall c (List.mem_cons_of_mem _ hc))

/-- Behind a failure no other instructions are given, so the longer `plan ++ plan'` has the same
    calls. -/
theorem stop (h : UpToFailure plan calls) (hfail : ¬ ∀ c ∈ calls, c.Succeeds)
    (plan' : List Instruction) : UpToFailure (plan ++ plan') calls := by
  induction h with
  | finished => exact absurd (List.forall_mem_nil _) hfail
  | failed => exact .failed
  | given _ ih =>
    refine .given (ih fun hall => hfail ?_)
    rintro c (_ | ⟨_, hc⟩)
    · exact ⟨_, rfl⟩
    · exact hall c hc

/-- The calls of `plan` and `plan'` in a row are those of the first one and then those of the
    second, of which there are none behind a failure. -/
theorem split (h : UpToFailure (plan ++ plan') calls) :
    ∃ first later, calls = first ++ later ∧ UpToFailure plan first ∧
      ((∃ c ∈ first, ¬ c.Succeeds) → later = []) ∧ (later = [] ∨ UpToFailure plan' later) := by
  induction plan generalizing calls with
  | nil => exact ⟨[], calls, rfl, .finished, by simp, .inr h⟩
  | cons i rest ih =>
    cases h with
    | failed => exact ⟨[_], [], rfl, .failed, fun _ => rfl, .inl rfl⟩
    | given hrest =>
      obtain ⟨first, later, rfl, hfirst, hstop, hlater⟩ := ih hrest
      refine ⟨_ :: first, later, rfl, .given hfirst, ?_, hlater⟩
      rintro ⟨c, _ | ⟨_, hc⟩, hfail⟩
      · exact absurd ⟨_, rfl⟩ hfail
      · exact hstop ⟨c, hc, hfail⟩

/-- What was given belongs to the `plan`; nothing is given besides. -/
theorem instruction_mem (h : UpToFailure plan calls) : ∀ c ∈ calls, c.instruction ∈ plan := by
  induction h with
  | finished => exact List.forall_mem_nil _
  | failed =>
    rintro c (_ | ⟨_, ⟨⟩⟩)
    exact List.mem_cons_self
  | given _ ih =>
    rintro c (_ | ⟨_, hc⟩)
    · exact List.mem_cons_self
    · exact List.mem_cons_of_mem _ (ih c hc)

end UpToFailure

/-- A call alone succeeds exactly if its `answer` is no failure. -/
theorem forall_mem_singleton_succeeds (i : Instruction) (answer : Except Error Bool) :
    (∀ c ∈ [(⟨i, answer⟩ : DocumentCall)], c.Succeeds) ↔ ∃ found, answer = .ok found :=
  List.forall_mem_singleton

/-- The action gave the instructions of `plan` up to the first failure, and ended in a failure
    exactly if one of them failed. -/
def Carries {α : Type} (plan : List Instruction) (calls : List DocumentCall)
    (r : Except Error α) : Prop :=
  UpToFailure plan calls ∧ ((∃ x, r = .ok x) ↔ ∀ c ∈ calls, c.Succeeds)

variable {σ α β : Type}

namespace Logs

/-- One `plan` and then `plan'`, as far as the first one did not fail. -/
theorem bind_carries (plan plan' : List Instruction) {a : Action (σ × List DocumentCall) α}
    {b : Action σ α} {f : α → Action (σ × List DocumentCall) β} {g : α → Action σ β}
    (ha : Logs (Carries plan) a b) (hf : ∀ x, Logs (Carries plan') (f x) (g x)) :
    Logs (Carries (plan ++ plan')) (a >>= f) (b >>= g) := by
  refine ha.bind (Q := fun _ => Carries plan') hf ?_ ?_
  · rintro new x later r ⟨hnew, hall⟩ ⟨hlater, hiff⟩
    have hall : ∀ c ∈ new, c.Succeeds := hall.mp ⟨x, rfl⟩
    refine ⟨hnew.append hall hlater, ?_⟩
    rw [hiff, List.forall_mem_append]
    exact ⟨fun h => ⟨hall, h⟩, And.right⟩
  · rintro new e ⟨hnew, hall⟩
    have hfail : ¬ ∀ c ∈ new, c.Succeeds := fun h => by
      obtain ⟨_, hx⟩ := hall.mpr h
      cases hx
    refine ⟨hnew.stop hfail plan', fun ⟨_, hx⟩ => ?_, fun h => absurd h hfail⟩
    cases hx

/-- An answer `x` without an instruction carries out the plan of none. -/
theorem pure_carries (x : α) : Logs (σ := σ) (Carries []) (pure x) (pure x) :=
  Logs.pure ⟨.finished, fun _ => List.forall_mem_nil _, fun _ => ⟨x, rfl⟩⟩

/-- A `plan` and then an answer, which gives no instruction. -/
theorem bind_pure_carries {plan : List Instruction} {a : Action (σ × List DocumentCall) α}
    {b : Action σ α} (ha : Logs (Carries plan) a b) (f : α → β) :
    Logs (Carries plan) (a >>= fun x => pure (f x)) (b >>= fun x => pure (f x)) := by
  have h := bind_carries plan [] ha fun x => pure_carries (σ := σ) (f x)
  rwa [List.append_nil] at h

/-- One instruction `i`, whose failure is the failure of the action. -/
theorem tell_carries (d : Document σ) (i : Instruction) :
    Logs (Carries [i]) (d.transcribed.tell i) (d.tell i) := by
  intro s calls
  refine ⟨[⟨i, (d.perform i s).1⟩], rfl, ?_⟩
  show Carries [i] [⟨i, (d.perform i s).1⟩] (d.perform i s).1
  exact ⟨.singleton i _, (forall_mem_singleton_succeeds i _).symm⟩

/-- One instruction `i` whose answer does not matter, but its failure does. -/
theorem discard_carries (d : Document σ) (i : Instruction) :
    Logs (Carries [i]) (discard (d.transcribed.tell i)) (discard (d.tell i)) := by
  rw [Action.discard_eq_bind, Action.discard_eq_bind]
  exact bind_pure_carries (tell_carries d i) fun _ => ()

end Logs

/-! ### What a change tells -/

section

variable (d : Document σ)

/-- The `scripts` are run in order, up to the first that fails. -/
theorem carries_runScripts (scripts : List Html.Script) :
    Logs (Carries (scripts.map Html.Script.instruction)) (d.transcribed.runScripts scripts)
      (d.runScripts scripts) := by
  induction scripts with
  | nil => exact Logs.pure_carries ()
  | cons script rest ih =>
    refine Logs.bind_carries [script.instruction] _ ?_ fun _ => ih
    cases script <;> exact Logs.discard_carries d _

/-- The `markup` is brought into the document, and then its scripts are run, in the order in which
    they stand there. -/
theorem carries_install {i : Instruction} {markup : String} (hi : i.markup? = some markup) :
    Logs (Carries i.withScripts)
      (discard (d.transcribed.tell i) >>= fun _ => d.transcribed.runMarkup markup)
      (discard (d.tell i) >>= fun _ => d.runMarkup markup) := by
  have hplan : i.withScripts = [i] ++ Html.scriptPlan markup := by
    rw [Instruction.withScripts, hi]
    rfl
  rw [hplan]
  exact Logs.bind_carries [i] _ (Logs.discard_carries d i) fun _ => carries_runScripts d _

/-- The regions of the whole page are exchanged one after the other by `rootPlan`, each with its
    scripts right behind it. -/
theorem carries_updateRoot (markup : String) :
    Logs (Carries ((rootPlan markup).flatMap Instruction.withScripts))
      (d.transcribed.updateRoot markup) (d.updateRoot markup) := by
  have hregion : ∀ region s, Logs (σ := σ)
      (Carries (Instruction.replaceRegion region s.attributes s.inner).withScripts)
      (d.transcribed.replaceRegion region s) (d.replaceRegion region s) :=
    fun region s => carries_install d rfl
  have hbody : ∀ b : Bool, Logs (σ := σ)
      (Carries ((if b then [Instruction.replaceRegion .body
        (Document.sectionOf .body markup).attributes
        (Document.sectionOf .body markup).inner] else []).flatMap Instruction.withScripts))
      (if b then d.transcribed.replaceRegion .body (Document.sectionOf .body markup) else pure ())
      (if b then d.replaceRegion .body (Document.sectionOf .body markup) else pure ()) := by
    intro b
    cases b with
    | true =>
      simp only [if_true, List.flatMap_singleton]
      exact hregion .body _
    | false => exact Logs.pure_carries ()
  unfold Document.updateRoot rootPlan
  cases Html.section? .head markup with
  | none => exact hbody _
  | some s => exact Logs.bind_carries _ _ (hregion .head s) fun _ => hbody _

end

/-! ### Blocks -/

/-- The calls are those of one change `op`: of one of its plans with the scripts in between, up to
    the first failure. -/
def ChangeBlock (reserved : ReservedIds) (op : Operation) (calls : List DocumentCall) : Prop :=
  ∃ plan ∈ op.plans reserved, UpToFailure (plan.flatMap Instruction.withScripts) calls

/-- Nothing in `calls` failed, apart from changes of attributes of missing elements, which are
    passed over. -/
def Settled (calls : List DocumentCall) : Prop :=
  ∀ c ∈ calls, c.Succeeds ∨ ∃ id name value, c.instruction = .setAttribute id name value

/-- How one change `op` ends: without a failure in its calls, or with one. Only a redirect leaves
    the page. -/
structure Concludes (reserved : ReservedIds) (op : Operation) (calls : List DocumentCall)
    (r : Except Error Outcome) : Prop where
  /-- The calls are those of the change, and no other ones. -/
  block : ChangeBlock reserved op calls
  /-- If it comes to an outcome, nothing in them failed that was not passed over. -/
  settled : ∀ o, r = .ok o → Settled calls
  /-- If it fails, something in them did. -/
  failed : ∀ e, r = .error e → ∃ c ∈ calls, ¬ c.Succeeds
  /-- If it leaves the page, it is a redirect. -/
  left : ∀ o url, r = .ok o → o.redirect = some url → op = .redirect url

/-- A change `op` that comes to the instructions of a `plan`, and leaves the page only if it is a
    redirect. -/
theorem Concludes.of_carries {reserved : ReservedIds} {op : Operation} {plan : List Instruction}
    (hplan : plan ∈ op.plans reserved) {calls : List DocumentCall} {r : Except Error Outcome}
    (h : Carries (plan.flatMap Instruction.withScripts) calls r)
    (hleft : ∀ o url, r = .ok o → o.redirect = some url → op = .redirect url) :
    Concludes reserved op calls r where
  block := ⟨plan, hplan, h.1⟩
  settled := fun o ho c hc => .inl (h.2.mp ⟨o, ho⟩ c hc)
  failed := by
    rintro e rfl
    refine Classical.byContradiction fun hnone => ?_
    simp only [not_exists, not_and, Classical.not_not] at hnone
    obtain ⟨_, hx⟩ := h.2.mpr hnone
    cases hx
  left := hleft

/-- A change `op` that may come to no instruction at all, and stays on the page. -/
theorem Concludes.of_nothing {reserved : ReservedIds} {op : Operation}
    (hplan : [] ∈ op.plans reserved) {o : Outcome} (hstay : o.redirect = none) :
    Concludes reserved op [] (.ok o) := by
  refine .of_carries hplan ⟨.finished, fun _ => List.forall_mem_nil _, fun _ => ⟨o, rfl⟩⟩ ?_
  rintro _ url ⟨⟩ hurl
  rw [hstay] at hurl
  cases hurl

section

variable (d : Document σ) (reserved : ReservedIds)

/-- An action that carries out a `plan` of the change `op`, and then an outcome that leaves the page
    for a redirect only. -/
theorem Logs.concludes {op : Operation} (plan : List Instruction)
    (hplan : plan ∈ op.plans reserved) {a : Action (σ × List DocumentCall) α} {b : Action σ α}
    (h : Logs (Carries (plan.flatMap Instruction.withScripts)) a b) {f : α → Outcome}
    (hf : ∀ x url, (f x).redirect = some url → op = .redirect url) :
    Logs (Concludes reserved op) (a >>= fun x => pure (f x)) (b >>= fun x => pure (f x)) := by
  refine h.bind (Q := fun x later r => later = [] ∧ r = .ok (f x)) (fun x => Logs.pure ⟨rfl, rfl⟩)
    ?_ ?_
  · rintro new x _ _ ⟨hnew, hall⟩ ⟨rfl, rfl⟩
    rw [List.append_nil]
    refine .of_carries hplan ⟨hnew, fun _ => hall.mp ⟨x, rfl⟩, fun _ => ⟨_, rfl⟩⟩ ?_
    rintro _ url ⟨⟩ hurl
    exact hf x url hurl
  · rintro new e ⟨hnew, hall⟩
    refine .of_carries hplan ⟨hnew, ?_, fun h => ?_⟩ nofun
    · rintro ⟨_, ⟨⟩⟩
    · obtain ⟨_, hx⟩ := hall.mpr h
      cases hx

/-- An update of an element puts `markup` in its place or in it, or does nothing if it is
    missing. -/
theorem concludes_updateElement {target markup : String}
    (htarget : reserved.classify target = .element) :
    Logs (Concludes reserved (.update target markup)) (d.transcribed.updateElement target markup)
      (d.updateElement target markup) := by
  have hplans : (Operation.update target markup).plans reserved =
      [[], [.replaceElement target markup], [.replaceContent target markup]] := by
    rw [Operation.plans, htarget]
  have hinstall : ∀ {i : Instruction}, i.markup? = some markup →
      [i] ∈ (Operation.update target markup).plans reserved →
      Logs (σ := σ) (Concludes reserved (.update target markup))
        (discard (d.transcribed.tell i) >>= fun _ =>
          d.transcribed.runMarkup markup >>= fun _ => pure Outcome.done)
        (discard (d.tell i) >>= fun _ => d.runMarkup markup >>= fun _ => pure Outcome.done) := by
    intro i hi hplan
    -- the instruction and the scripts are the one action that carries out the plan
    rw [← bind_assoc, ← bind_assoc]
    refine Logs.concludes reserved _ hplan ?_ nofun
    rw [List.flatMap_singleton]
    exact carries_install d hi
  unfold Document.updateElement
  refine Logs.bind (P := fun new r => new = [] ∧ ∃ present, r = .ok present)
    (Q := fun _ => Concludes reserved (.update target markup)) ?_ (fun present => ?_) ?_ ?_
  · exact fun s calls => ⟨[], by rw [List.append_nil]; rfl, rfl, d.contains s target, rfl⟩
  -- a missing element is no failure: no instruction is given at all
  · cases present with
    | false =>
      have hplan : [] ∈ (Operation.update target markup).plans reserved := by
        rw [hplans]
        exact List.mem_cons_self
      exact Logs.pure (.of_nothing hplan rfl)
    | true =>
      by_cases hid : Html.soleId? (Html.parseFragment markup) = some target
      · simp only [hid, if_true]
        exact hinstall rfl (by simp [hplans])
      · simp only [hid, if_true, if_false]
        exact hinstall rfl (by simp [hplans])
  · rintro _ _ later r ⟨rfl, -⟩ hlater
    exact hlater
  · rintro _ e ⟨-, _, ⟨⟩⟩

/-- An update carries out its plan, which the id `target` decides. -/
theorem concludes_applyUpdate (target markup : String) :
    Logs (Concludes reserved (.update target markup))
      (d.transcribed.applyUpdate reserved target markup)
      (d.applyUpdate reserved target markup) := by
  have hregion : ∀ region s,
      [.replaceRegion region s.attributes s.inner] ∈
        (Operation.update target markup).plans reserved →
      Logs (σ := σ) (Concludes reserved (.update target markup))
        (d.transcribed.replaceRegion region s >>= fun _ => pure Outcome.done)
        (d.replaceRegion region s >>= fun _ => pure Outcome.done) := by
    intro region s hplan
    refine Logs.concludes reserved _ hplan ?_ nofun
    rw [List.flatMap_singleton]
    exact carries_install d rfl
  unfold Document.applyUpdate
  cases htarget : reserved.classify target with
  | viewState =>
    refine Logs.concludes reserved [.updateViewState (Text.trim markup)] ?_
      (Logs.discard_carries d _) nofun
    simp [Operation.plans, htarget]
  | head => exact hregion .head _ (by simp [Operation.plans, htarget])
  | body => exact hregion .body _ (by simp [Operation.plans, htarget])
  | root =>
    refine Logs.concludes reserved (rootPlan markup) ?_ (carries_updateRoot d markup) nofun
    simp [Operation.plans, htarget]
  | element => exact concludes_updateElement d reserved htarget

/-- A change `i` of an element is told as it is, and the failure is handed back if the element is
    missing. -/
theorem logs_tellElement (i : Instruction) :
    Logs (fun new r => ∃ answer, new = [⟨i, answer⟩] ∧
        ((∃ found, answer = .ok found) ↔ r = .ok none))
      (d.transcribed.tellElement i) (d.tellElement i) := by
  intro s calls
  have htranscribed : d.transcribed.perform i (s, calls) =
      ((d.perform i s).1, (d.perform i s).2, calls ++ [⟨i, (d.perform i s).1⟩]) := rfl
  refine ⟨[⟨i, (d.perform i s).1⟩], ?_, (d.perform i s).1, rfl, ?_⟩
  -- a failure that can be recovered from is an answer, so that nothing is thrown
  · simp only [Document.tellElement, htranscribed]
    rcases d.perform i s with ⟨e | found, t⟩
    · by_cases he : e.isRecoverable <;> simp [he]
    · rfl
  · simp only [Document.tellElement]
    rcases d.perform i s with ⟨e | found, t⟩
    · by_cases he : e.isRecoverable <;> simp [he]
    · simp

/-- Puts markup next to an anchor; a missing anchor is a failure. This is `Document.applyInsert`
    without the scripts. -/
def Document.placeAt (d : Document σ) (id : Option String) (position : InsertPosition)
    (anchor markup : String) : Action σ Unit := do
  match ← d.tellElement (.insertAdjacent anchor position markup) with
  | some _ => throw (.anchorNotFound anchor (id.getD "insert"))
  | none => pure ()

/-- An insert is one `insertAdjacent`, and it fails if the instruction does. -/
theorem carries_placeAt (id : Option String) (position : InsertPosition) (anchor markup : String) :
    Logs (Carries [.insertAdjacent anchor position markup])
      (d.transcribed.placeAt id position anchor markup) (d.placeAt id position anchor markup) := by
  refine (logs_tellElement d _).bind
    (Q := fun missing later r => later = [] ∧ ((∃ x, r = .ok x) ↔ missing = none))
    (fun missing => ?_) ?_ ?_
  · cases missing with
    | none => exact Logs.pure ⟨rfl, by simp⟩
    | some e => exact Logs.throw ⟨rfl, by simp⟩
  · rintro _ missing _ r ⟨answer, rfl, hanswer⟩ ⟨rfl, hr⟩
    refine ⟨.singleton _ answer, ?_⟩
    rw [hr, List.append_nil, forall_mem_singleton_succeeds, hanswer, Except.ok.injEq]
  · rintro _ e ⟨answer, rfl, hanswer⟩
    refine ⟨.singleton _ answer, ?_⟩
    rw [forall_mem_singleton_succeeds, hanswer]
    simp

/-- An insert tells the `markup`, and then the scripts in it, if the `anchor` was there. -/
theorem concludes_applyInsert (id : Option String) (position : InsertPosition)
    (anchor markup : String) :
    Logs (Concludes reserved (.insert id position anchor markup))
      (d.transcribed.applyInsert id position anchor markup)
      (d.applyInsert id position anchor markup) := by
  -- a missing anchor ends the insert before its scripts
  have hsplit : ∀ {τ : Type} (d : Document τ), d.applyInsert id position anchor markup =
      (d.placeAt id position anchor markup >>= fun _ => d.runMarkup markup) >>= fun _ =>
        pure .done := by
    intro τ d
    simp only [Document.placeAt, Document.applyInsert, bind_assoc]
    refine congrArg _ (funext fun missing => ?_)
    cases missing with
    | none => simp only [pure_bind]
    | some e => rfl
  rw [hsplit, hsplit]
  refine Logs.concludes reserved [_] List.mem_cons_self ?_ ?_
  · rw [List.flatMap_singleton]
    exact Logs.bind_carries [.insertAdjacent anchor position markup] _
      (carries_placeAt d id position anchor markup) fun _ => carries_runScripts d _
  · intro _ url hurl
    cases hurl

/-- A change of an attribute is one instruction, which is passed over if the element `target` is
    missing. -/
theorem concludes_applyAttribute (target name value : String) :
    Logs (Concludes reserved (.setAttribute target name value))
      (d.transcribed.applyAttribute target name value) (d.applyAttribute target name value) := by
  have hblock : ∀ answer, ChangeBlock reserved (.setAttribute target name value)
      [⟨.setAttribute target name value, answer⟩] :=
    fun answer => ⟨_, List.mem_cons_self, .singleton _ answer⟩
  refine (logs_tellElement d _).bind
    (Q := fun _ later r => later = [] ∧ ∃ o, r = .ok o ∧ o.redirect = none)
    (fun missing => ?_) ?_ ?_
  · cases missing <;> exact Logs.pure ⟨rfl, _, rfl, rfl⟩
  · rintro _ missing _ _ ⟨answer, rfl, -⟩ ⟨rfl, o, rfl, hstay⟩
    refine ⟨hblock answer, fun _ _ c hc => ?_, nofun, ?_⟩
    · rw [List.append_nil, List.mem_singleton] at hc
      subst hc
      exact .inr ⟨target, name, value, rfl⟩
    · rintro _ url ⟨⟩ hurl
      rw [hstay] at hurl
      cases hurl
  · rintro _ e ⟨answer, rfl, hanswer⟩
    refine ⟨hblock answer, nofun, fun _ _ => ⟨_, List.mem_singleton_self _, ?_⟩, nofun⟩
    intro hfound
    cases hanswer.mp hfound

/-- What one change `op` tells, and how it ends, for each kind of change. -/
theorem concludes_applyOne (op : Operation) :
    Logs (Concludes reserved op) (d.transcribed.applyOne reserved op) (d.applyOne reserved op) := by
  cases op with
  | update target markup => exact concludes_applyUpdate d reserved target markup
  | insert id position anchor markup =>
    exact concludes_applyInsert d reserved id position anchor markup
  | delete target =>
    -- a removal answers whether it found something, and neither answer leaves the page
    have hpure : ∀ {τ : Type} (found : Bool),
        (if found then pure .done else pure {} : Action τ Outcome) =
          pure (if found then .done else {}) := by
      intro τ found
      cases found <;> rfl
    simp only [Document.applyOne, hpure]
    refine Logs.concludes reserved [.remove target] List.mem_cons_self
      (Logs.tell_carries d _) ?_
    rintro (_ | _) url ⟨⟩
  | setAttribute target name value => exact concludes_applyAttribute d reserved target name value
  | eval code =>
    simp only [Document.applyOne]
    exact Logs.concludes reserved [.runScript code] List.mem_cons_self
      (Logs.discard_carries d _) nofun
  | redirect url =>
    simp only [Document.applyOne]
    refine Logs.concludes reserved [.navigate url] List.mem_cons_self
      (Logs.discard_carries d _) ?_
    rintro _ _ ⟨⟩
    rfl
  | error name message => exact Logs.pure (.of_nothing List.mem_cons_self rfl)

/-! ### Scripts behind their markup -/

/-- Right behind each call that brought markup into the document stand the scripts in that `markup`,
    up to the first failure, which is the last call of all. -/
def ScriptsFollow : List DocumentCall → Prop
  | [] => True
  | c :: after =>
    ScriptsFollow after ∧ ∀ markup found, c.instruction.markup? = some markup →
      c.answer = .ok found → ∃ runs rest, after = runs ++ rest ∧
        UpToFailure (Html.scriptPlan markup) runs ∧ ((∃ r ∈ runs, ¬ r.Succeeds) → rest = [])

namespace ScriptsFollow

/-- The calls `later` can follow where nothing failed in `calls`: the scripts of a call still stand
    right behind it. -/
theorem append {calls later : List DocumentCall} (h : ScriptsFollow calls)
    (hsettled : Settled calls) (hlater : ScriptsFollow later) : ScriptsFollow (calls ++ later) := by
  induction calls with
  | nil => exact hlater
  | cons c after ih =>
    obtain ⟨hafter, hc⟩ := h
    have hsettled : Settled after := fun r hr => hsettled r (List.mem_cons_of_mem _ hr)
    refine ⟨ih hafter hsettled, fun markup found hmarkup hfound => ?_⟩
    obtain ⟨runs, rest, rfl, hruns, -⟩ := hc markup found hmarkup hfound
    -- the scripts of a call stand in front of what follows
    refine ⟨runs, rest ++ later, List.append_assoc .., hruns, ?_⟩
    -- a script that fails is not passed over
    rintro ⟨r, hr, hfail⟩
    obtain ⟨script, -, hscript⟩ := List.mem_map.mp (hruns.instruction_mem r hr)
    rcases hsettled r (List.mem_append_left _ hr) with hok | ⟨id, name, value, hset⟩
    · exact absurd hok hfail
    · rw [hset] at hscript
      cases script <;> cases hscript

/-- Calls without markup can come in front of `later`, as no scripts belong to them. -/
theorem append_of_markup?_eq_none {calls later : List DocumentCall}
    (h : ∀ c ∈ calls, c.instruction.markup? = none) (hlater : ScriptsFollow later) :
    ScriptsFollow (calls ++ later) := by
  induction calls with
  | nil => exact hlater
  | cons c after ih =>
    rw [List.forall_mem_cons] at h
    refine ⟨ih h.2, fun markup found hmarkup => ?_⟩
    rw [h.1] at hmarkup
    cases hmarkup

/-- The instructions of a `scriptPlan` bring no markup, so there are no scripts behind them. -/
theorem markup?_of_mem_scriptPlan {i : Instruction} {markup : String}
    (h : i ∈ Html.scriptPlan markup) : i.markup? = none := by
  obtain ⟨script, -, rfl⟩ := List.mem_map.mp h
  cases script <;> rfl

/-- In the `calls` of a change the scripts stand behind their markup. -/
theorem of_upToFailure {plan : List Instruction} {calls : List DocumentCall}
    (h : UpToFailure (plan.flatMap Instruction.withScripts) calls) : ScriptsFollow calls := by
  induction plan generalizing calls with
  | nil =>
    cases h
    trivial
  | cons i rest ih =>
    rw [List.flatMap_cons, Instruction.withScripts, List.cons_append] at h
    cases h with
    -- markup that was not brought in has no scripts to run
    | failed => exact ⟨trivial, nofun⟩
    | given hscripts =>
      obtain ⟨runs, later, rfl, hruns, hstop, hlater⟩ := hscripts.split
      refine ⟨append_of_markup?_eq_none (fun c hc => ?_) ?_, fun markup found hmarkup _ => ?_⟩
      · have hmem := hruns.instruction_mem c hc
        cases hi : i.markup? with
        | none =>
          rw [hi] at hmem
          cases hmem
        | some markup =>
          rw [hi] at hmem
          exact markup?_of_mem_scriptPlan hmem
      · rcases hlater with rfl | hlater
        · trivial
        · exact ih hlater
      · rw [hmarkup] at hruns
        exact ⟨runs, later, rfl, hruns, hstop⟩

end ScriptsFollow

/-! ### The transcript -/

/-- The calls of changes that are applied in order, one block for each change that is reached, and
    how that ends: with the address for which the page is left, if it is left, or with a failure.
    `traced_applyAll` has it of every list of changes. -/
inductive Traced (reserved : ReservedIds) :
    List Operation → List (List DocumentCall) → Except Error (Option String) → Prop
  /-- There are no more changes. -/
  | finished : Traced reserved [] [] (.ok none)
  /-- The page is left, and the other changes are not reached. -/
  | left {url : String} {rest : List Operation} {calls : List DocumentCall}
      (hblock : ChangeBlock reserved (.redirect url) calls) (hsettled : Settled calls) :
      Traced reserved (.redirect url :: rest) [calls] (.ok (some url))
  /-- A call fails, and the other changes are not reached. -/
  | failed {op : Operation} {rest : List Operation} {calls : List DocumentCall} {e : Error}
      (hblock : ChangeBlock reserved op calls) (hfail : ∃ c ∈ calls, ¬ c.Succeeds) :
      Traced reserved (op :: rest) [calls] (.error e)
  /-- Nothing fails, and the next change is reached. -/
  | next {op : Operation} {rest : List Operation} {calls : List DocumentCall}
      {blocks : List (List DocumentCall)} {ending : Except Error (Option String)}
      (hblock : ChangeBlock reserved op calls)
      (hsettled : Settled calls) (hrest : Traced reserved rest blocks ending) :
      Traced reserved (op :: rest) (calls :: blocks) ending

/-- In all of the `blocks` the scripts stand behind their markup, and so in all calls together. -/
theorem Traced.scriptsFollow {ops : List Operation} {blocks : List (List DocumentCall)}
    {ending : Except Error (Option String)} (h : Traced reserved ops blocks ending) :
    ScriptsFollow blocks.flatten := by
  induction h with
  | finished => trivial
  | left hblock | failed hblock =>
    obtain ⟨plan, -, hplan⟩ := hblock
    rw [List.flatten_singleton]
    exact .of_upToFailure hplan
  | next hblock hsettled _ ih =>
    obtain ⟨plan, -, hplan⟩ := hblock
    exact (ScriptsFollow.of_upToFailure hplan).append hsettled ih

/-- What the changes `ops` tell, block by block: one block for each change that is reached. -/
theorem traced_applyAll (ops : List Operation) :
    Logs (fun calls r => ∃ blocks, calls = blocks.flatten ∧
        Traced reserved ops blocks (r.map Outcome.redirect))
      (d.transcribed.applyAll reserved ops) (d.applyAll reserved ops) := by
  induction ops with
  | nil => exact Logs.pure ⟨[], rfl, .finished⟩
  | cons op rest ih =>
    rw [applyAll_cons, applyAll_cons]
    -- what the first change came to decides whether the others are reached
    refine (concludes_applyOne d reserved op).bind
      (Q := fun o later r => ∀ calls, Concludes reserved op calls (.ok o) →
        ∃ blocks, calls ++ later = blocks.flatten ∧
          Traced reserved (op :: rest) blocks (r.map Outcome.redirect))
      (fun o => ?_) (fun calls o later r hcalls hlater => hlater calls hcalls) ?_
    · cases hleft : o.redirect with
      | some url =>
        rw [Outcome.goOn_of_left (by rw [hleft]; rfl), Outcome.goOn_of_left (by rw [hleft]; rfl)]
        refine Logs.pure fun calls hcalls => ⟨[calls], rfl, ?_⟩
        cases hcalls.left o url rfl hleft
        show Traced reserved _ _ (.ok o.redirect)
        rw [hleft]
        exact .left hcalls.block (hcalls.settled o rfl)
      | none =>
        intro s log
        obtain ⟨later, heq, blocks, rfl, htraced⟩ := ih s log
        refine ⟨blocks.flatten, ?_, fun calls hcalls => ⟨calls :: blocks, rfl, ?_⟩⟩
        · rw [Outcome.goOn_apply hleft, Outcome.goOn_apply hleft, heq]
          rcases d.applyAll reserved rest s with ⟨e | others, t⟩ <;> rfl
        · refine .next hcalls.block (hcalls.settled o rfl) ?_
          rw [Outcome.goOn_apply hleft]
          rcases hrun : d.applyAll reserved rest s with ⟨e | others, t⟩ <;> rw [hrun] at htraced
          · exact htraced
          · show Traced reserved rest blocks (.ok (o ++ others).redirect)
            rw [Outcome.append_def, hleft, Option.or_none]
            exact htraced
    · intro calls e hcalls
      exact ⟨[calls], by simp, .failed hcalls.block (hcalls.failed e rfl)⟩

end

/-- What the calls of a change-set have to do with its changes `ops` and with the scripts in
    them. -/
structure Transcript (reserved : ReservedIds) (ops : List Operation) (calls : List DocumentCall)
    (r : Except Error Outcome) : Prop where
  /-- There is one block of calls for each change that was reached. -/
  traced : ∃ blocks, calls = blocks.flatten ∧ Traced reserved ops blocks (r.map Outcome.redirect)
  /-- The scripts in markup are run right behind the call that brought the markup. -/
  scriptsFollow : ScriptsFollow calls

/-- **Scripts in a transcript.** While `changes` without an error report are applied, each change
    that is reached tells its instructions and, right behind an instruction with markup, the scripts
    in that markup, up to the first failure; no other code is run. -/
theorem transcript_apply (d : Document σ) (reserved : ReservedIds) {changes : ChangeSet}
    (h : changes.error? = none) :
    Logs (Transcript reserved changes.operations) (d.transcribed.apply reserved changes)
      (d.apply reserved changes) := by
  rw [apply_of_error?_eq_none d reserved h, apply_of_error?_eq_none d.transcribed reserved h]
  refine (traced_applyAll d reserved changes.operations).imp ?_
  rintro _ r ⟨blocks, rfl, htraced⟩
  exact ⟨⟨blocks, rfl, htraced⟩, htraced.scriptsFollow⟩

/-- A response with a script inside an element, a script by its address, code of its own, and an
    `update` of an element that is gone by then. -/
def ChangeSet.scripts : ChangeSet :=
  .ofList [
    .update "p" "<div><script>a()</script></div><script src=\"/b.js\"></script>",
    .eval "c()", .delete "p", .update "p" "<script>d()</script>"]

/-- The scripts of the one update in `scripts` are run, those of the other are not, as its element
    is gone. -/
theorem transcript_scripts :
    ChangeSet.scripts.error? = none ∧
      Logs (Transcript {} ChangeSet.scripts.operations)
        (Recorder.document.transcribed.apply {} ChangeSet.scripts)
        (Recorder.document.apply {} ChangeSet.scripts) ∧
      ((Recorder.document.transcribed.apply {} ChangeSet.scripts
        ({ present := ["p"] }, [])).2.2.map DocumentCall.instruction).filter Instruction.runsCode =
          [.runScript "a()", .loadScript "/b.js", .runScript "c()"] := by
  refine ⟨rfl, transcript_apply Recorder.document {} rfl, ?_⟩
  decide +kernel

end PagePatch
