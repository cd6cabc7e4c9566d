import PagePatch.Page.Document
import PagePatch.Proofs.Engine.Flight

namespace PagePatch

/-!
# The token of the engine and the token of the document

A token that comes with a response is handed to the document at once. The engine learns of it when
all changes of the response were applied, and not when one of them ends in a failure.

* `Engine.noted` — the engine on the noted document;
* `Engine.BreaksOn` — the changes of a response end in a failure;
* `Follows` — how the token of the engine follows the tokens that the document was told;
* `mirrors_step` — it does so on every input;
* `viewState_step`, `viewState_run` — when it is the last one that the document was told.
-/

variable {σ : Type}

/-! ### The noted engine -/

/-- The engine `e` on the noted document, where the page comes with what it was told. -/
def Engine.noted (e : Engine σ) : Engine (σ × List Instruction) where
  endpoint := e.endpoint
  config := e.config
  document := e.document.noted
  parser := e.parser

/-- The state `s` with what the document was `told` so far. -/
def EngineState.noting (s : EngineState σ) (told : List Instruction) :
    EngineState (σ × List Instruction) :=
  { s with page := (s.page, told) }

/-- The response that a signal brings, which only the last `stage` does. -/
def Signal.response? : Signal → Option Response
  | stage event => event.response?
  | _ => none

/-- The response that asking for the next signal brings, if that is a `signal` with one. -/
def Heard.response? : Heard → Option Response
  | signal s => s.response?
  | _ => none

/-- The response that is handed in with a command, which only `respond` does. -/
def EngineCommand.response? : EngineCommand → Option Response
  | respond r _ => some r
  | _ => none

/-- The response that is processed on the input `i`, if there is one: it is handed in, or the
    exchange in flight is done. -/
def EngineState.processed? (s : EngineState σ) (i : EngineInput) : Option Response :=
  if s.closed then none
  else
    match i with
    | .command c => c.response?
    | .signal => s.inFlight.bind fun f => (f.handle.elapse s.now).next.1.response?
    | _ => none

/-- The changes of the `response` end in a failure on this `page`. -/
def Engine.BreaksOn (e : Engine σ) (page : σ) (response : Option Response) : Prop :=
  ∃ r failure page', response = some r ∧
    e.processor.Judges e.document r page (.broken failure) page'

/-- How the token of the engine, first `before` and then `after`, follows what the document with a
    page was told of a response. -/
structure Follows (e : Engine σ) (page : σ) (response : Option Response) (new : List Instruction)
    (before after : Option String) : Prop where
  /-- Without a response the document is told nothing. -/
  untold : response = none → new = []
  /-- After a response whose changes were applied it is the last token that the document was told,
      and the same as before if the document was told none. -/
  follows : ¬ e.BreaksOn page response → after = (tokensOf new).getLast?.or before
  /-- After a response whose changes ended in a failure it is the same as before. -/
  stays : e.BreaksOn page response → after = before

/-- Without a response nothing changes, neither the `token` nor the document. -/
theorem follows_none (e : Engine σ) (page : σ) (token : Option String) :
    Follows e page none [] token token where
  untold _ := rfl
  follows _ := rfl
  stays _ := rfl

/-! ### Processing -/

namespace Processor

/-- On the noted document the response `r` goes the same way `v`. If its changes were applied, their
    outcome holds the last token that the document was told. -/
theorem Judges.noted {p : Processor} {d : Document σ} {r : Response} {page page' : σ} {v : Verdict}
    (h : Judges p d r page v page') (told : List Instruction) :
    ∃ new, Judges p d.noted r (page, told) v (page', told ++ new) ∧
      (v.kind? ≠ some .clientError → v.outcome.viewState = (tokensOf new).getLast?) := by
  -- with a report among the changes the document would not be told anything, and the verdict would
  -- be another one
  have happly : ∀ changes : ChangeSet, (∀ name message, .error name message ∉ changes.operations) →
      ∀ {a : Except Error Outcome}, d.apply p.reserved changes page = (a, page') →
        ∃ new, d.noted.apply p.reserved changes (page, told) = (a, page', told ++ new) ∧
          TokenReported new a := by
    intro changes hops a ha
    have hnone := (ChangeSet.error?_eq_none_iff _).mpr hops
    simp only [Document.apply, hnone] at ha ⊢
    obtain ⟨new, hnew, hreported⟩ := tells_applyAll d p.reserved changes.operations page told
    rw [ha] at hnew hreported
    exact ⟨new, hnew, hreported⟩
  -- only two of the five ways reach the document at all
  cases h with
  | refused hstatus => exact ⟨[], (List.append_nil told).symm ▸ .refused hstatus, fun _ => rfl⟩
  | unreadable hstatus hparse =>
    exact ⟨[], (List.append_nil told).symm ▸ .unreadable hstatus hparse, fun _ => rfl⟩
  | reported hstatus hparse hops hbefore =>
    exact ⟨[], (List.append_nil told).symm ▸ .reported hstatus hparse hops hbefore, fun _ => rfl⟩
  | broken hstatus hparse hops hbroken =>
    obtain ⟨new, hnew, -⟩ := happly _ hops hbroken
    exact ⟨new, .broken hstatus hparse hops hnew, fun hkind => absurd rfl hkind⟩
  | applied hstatus hparse hops happlied =>
    obtain ⟨new, hnew, hreported⟩ := happly _ hops happlied
    exact ⟨new, .applied hstatus hparse hops hnew, fun _ => (hreported _ rfl).2⟩

end Processor

/-- A failure of the kind `clientError` is one of the changes, as the other verdicts are of other
    kinds. -/
theorem Verdict.eq_broken {v : Verdict} (h : v.kind? = some .clientError) :
    ∃ failure, v = .broken failure := by
  cases v with
  | broken failure => exact ⟨failure, rfl⟩
  | refused => cases h
  | unreadable f => cases h
  | reported name message => cases h
  | applied o => cases h

/-- The engine remembers the token in the outcome of the verdict `v`, or keeps the one it has. -/
theorem process_viewState {e : Engine σ} {r : Response} {s : EngineState σ} {v : Verdict}
    {page' : σ} (h : e.processor.Judges e.document r s.page v page') (ctx : ResponseContext) :
    (e.process ctx r s).2.viewState = v.outcome.viewState.or s.viewState := by
  show (e.processor.process e.document s.listeners ctx r s.page).summary.viewState.or _ = _
  rw [Processor.process_of_judges h]
  rfl

/-- The noted engine processes a response as the engine does, and what it notes is what `Follows`
    speaks of. -/
theorem process_noting (e : Engine σ) (ctx : ResponseContext) (r : Response) (s : EngineState σ)
    (told : List Instruction) :
    ∃ new, e.noted.process ctx r (s.noting told) =
        ((e.process ctx r s).1, (e.process ctx r s).2.noting (told ++ new)) ∧
      Follows e s.page (some r) new s.viewState (e.process ctx r s).2.viewState := by
  obtain ⟨v, page', hv⟩ := e.processor.judges_total e.document r s.page
  obtain ⟨new, hnoted, htoken⟩ := hv.noted told
  refine ⟨new, ?_, ?_⟩
  · have hprocess : e.noted.processor.process e.noted.document (s.noting told).listeners ctx r
        (s.noting told).page = _ := Processor.process_of_judges hnoted s.listeners ctx
    simp only [Engine.process, hprocess, Processor.process_of_judges hv]
    rfl
  -- the token in the outcome is the one that was noted last
  · rw [process_viewState hv]
    refine {
      untold := fun hnone => absurd hnone (Option.some_ne_none r)
      follows := fun happlied => ?_
      stays := ?_ }
    -- every verdict but one has the last token in its outcome
    · rw [htoken fun hkind => ?_]
      obtain ⟨failure, rfl⟩ := Verdict.eq_broken hkind
      exact happlied ⟨r, failure, page', rfl, hv⟩
    -- that one has none
    · rintro ⟨_, failure, page'', ⟨⟩, hbroken⟩
      obtain ⟨failure, rfl⟩ := Verdict.eq_broken (hv.unique hbroken).1
      rfl

/-! ### Steps -/

/-- From `s`, where the document was told `told`, the engine goes to `s'` and the noted engine to
    `t`. The two agree, and the token of the engine follows what the document was told besides. -/
def Mirrors (e : Engine σ) (s : EngineState σ) (told : List Instruction)
    (response : Option Response) (s' : EngineState σ) (t : EngineState (σ × List Instruction)) :
    Prop :=
  ∃ new, t = s'.noting (told ++ new) ∧
    Follows e s.page response new s.viewState s'.viewState

section

variable (e : Engine σ) (s : EngineState σ) (told : List Instruction)

/-- Nothing is processed between `s` and `s'`, and the token stays as it is. -/
theorem mirrors_none {s s' : EngineState σ} {t : EngineState (σ × List Instruction)}
    (ht : t = s'.noting told) (hviewState : s'.viewState = s.viewState) :
    Mirrors e s told none s' t := by
  refine ⟨[], by rw [List.append_nil, ht], ?_⟩
  rw [hviewState]
  exact follows_none e s.page s.viewState

/-- What becomes of an entry on the admission `a` touches neither the document nor the token. -/
theorem settleAdmission_noting (a : Admission) :
    e.noted.settleAdmission a (s.noting told) = (e.settleAdmission a s).noting told ∧
      (e.settleAdmission a s).viewState = s.viewState := by
  cases a <;> exact ⟨rfl, rfl⟩

/-- Nor does the end of the request `id`, although the next one is sent then. -/
theorem finish_noting (id : RequestId) :
    e.noted.finish id (s.noting told) = (e.finish id s).noting told ∧
      (e.finish id s).viewState = s.viewState := by
  have hqueue : (s.noting told).queue = s.queue := rfl
  simp only [Engine.finish, hqueue]
  rcases s.queue.complete id with ⟨_ | entry, queue⟩ <;> exact ⟨rfl, rfl⟩

/-- What the engine makes of the response `r` to the request in flight. -/
theorem mirrors_complete (entry : Entry) (r : Response) :
    Mirrors e s told (some r) (e.complete entry r s)
      (e.noted.complete entry r (s.noting told)) := by
  let s₁ := s.raise entry.callbacks (.event {
    status := .complete
    source := entry.source
    request := entry.id
    response := some (r.status, r.body) })
  obtain ⟨new, hprocess, hfollows⟩ := process_noting e entry.context r s₁ told
  obtain ⟨hfinish, hviewState⟩ :=
    finish_noting e (e.process entry.context r s₁).2 (told ++ new) entry.id
  refine ⟨new, ?_, ?_⟩
  · show e.noted.finish entry.id (e.noted.process entry.context r (s₁.noting told)).2 = _
    rw [hprocess]
    exact hfinish
  · show Follows e s.page (some r) new s.viewState
      (e.finish entry.id (e.process entry.context r s₁).2).viewState
    rw [hviewState]
    exact hfollows

/-- What the engine makes of an exchange for `entry` that brings no response, so that nothing is
    processed. -/
theorem mirrors_fail (entry : Entry) (description : String) :
    Mirrors e s told none (e.fail entry description s)
      (e.noted.fail entry description (s.noting told)) := by
  have hfinish := finish_noting e (s.raise entry.callbacks (.error {
    kind := .httpError, description, source := entry.source, request := entry.id })) told entry.id
  exact mirrors_none e told hfinish.1 hfinish.2

/-- What the engine makes of a `signal` of the exchange in flight, the last one or another. -/
theorem mirrors_hear (entry : Entry) (signal : Signal) :
    Mirrors e s told signal.response? (e.hear entry signal s)
      (e.noted.hear entry signal (s.noting told)) := by
  cases signal with
  | stage event =>
    by_cases hdone : event.stage = .done
    · obtain ⟨r, hr⟩ := TransportEvent.response?_of_done hdone
      simp only [Engine.hear, Signal.response?, hdone, if_true, hr]
      exact mirrors_complete e { s with inFlight := none } told entry r
    -- before the end of the exchange there is no response to process
    · have hnone : event.response? = none := if_neg hdone
      simp only [Engine.hear, Signal.response?, hdone, if_false, hnone]
      exact mirrors_none e told rfl rfl
  | timeout ms => exact mirrors_fail e { s with inFlight := none } told entry _
  | failed message => exact mirrors_fail e { s with inFlight := none } told entry _
  | aborted =>
    have hfinish := finish_noting e { s with inFlight := none } told entry.id
    exact mirrors_none e told hfinish.1 hfinish.2

/-- What the engine makes of the next signal, if there is one: `takeSignal` asks the handle in
    flight. -/
theorem mirrors_signal : Mirrors e s told
    (s.inFlight.bind fun f => (f.handle.elapse s.now).next.1.response?)
    (e.takeSignal s) (e.noted.takeSignal (s.noting told)) := by
  have hflight : (s.noting told).inFlight = s.inFlight := rfl
  have hnow : (s.noting told).now = s.now := rfl
  simp only [Engine.takeSignal, hflight, hnow]
  cases s.inFlight with
  | none => exact mirrors_none e told rfl rfl
  | some f =>
    simp only [Option.bind_some]
    rcases (f.handle.elapse s.now).next with ⟨signal | _ | _, handle⟩
    · exact mirrors_hear e { s with inFlight := some { f with handle } } told f.entry signal
    · exact mirrors_none e told rfl rfl
    · exact mirrors_none e told rfl rfl

/-- What the engine makes of the alarm of `generation` for `source`: it may send a request, and
    processes nothing. -/
theorem mirrors_alarm (source : String) (generation : Nat) :
    Mirrors e s told none (e.takeAlarm source generation s)
      (e.noted.takeAlarm source generation (s.noting told)) := by
  have hqueue : (s.noting told).queue = s.queue := rfl
  simp only [Engine.takeAlarm, hqueue]
  rcases s.queue.release source generation with ⟨_ | a, queue⟩
  · exact mirrors_none e told rfl rfl
  · have hsettle := settleAdmission_noting e { s with
      queue
      timers := s.timers.filter (· ≠ (source, generation))
      alarms := s.alarms.filter fun a => (a.source, a.generation) ≠ (source, generation) } told a
    exact mirrors_none e told hsettle.1 hsettle.2

/-- What the engine makes of the command `c`, of which only `respond` hands a response in. -/
theorem mirrors_command (c : EngineCommand) :
    Mirrors e s told c.response? (e.obey c s) (e.noted.obey c (s.noting told)) := by
  cases c with
  | enqueue entry =>
    have hsettle := settleAdmission_noting e { s with queue := (s.queue.enqueue entry).2 } told
      (s.queue.enqueue entry).1
    exact mirrors_none e told hsettle.1 hsettle.2
  | respond r ctx =>
    obtain ⟨new, hprocess, hfollows⟩ := process_noting e ctx r s told
    refine ⟨new, ?_, hfollows⟩
    show (e.noted.process ctx r (s.noting told)).2.emit
      (.replied (e.noted.process ctx r (s.noting told)).1) = _
    rw [hprocess]
    rfl
  | cancelAll => exact mirrors_none e told rfl rfl
  | resize maxSize => exact mirrors_none e told rfl rfl
  | status => exact mirrors_none e told rfl rfl
  | shutdown => exact mirrors_none e told rfl rfl

/-- **The noted engine mirrors the engine.** On every input `i` the token of the engine follows what
    the document is told. -/
theorem mirrors_step (i : EngineInput) :
    Mirrors e s told (s.processed? i) (e.step i s) (e.noted.step i (s.noting told)) := by
  -- neither the noted page nor what was told decides which way an input goes
  have hnoting : (s.noting told).closed = s.closed := rfl
  cases hclosed : s.closed with
  | true =>
    rw [hclosed] at hnoting
    simp only [EngineState.processed?, hclosed, if_true]
    cases i <;> simp only [Engine.step, hclosed, hnoting, if_true] <;>
      exact mirrors_none e told rfl rfl
  | false =>
    rw [hclosed] at hnoting
    simp only [EngineState.processed?, Engine.step, hclosed, hnoting, Bool.false_eq_true, if_false]
    cases i with
    | command c => exact mirrors_command e s told c
    | signal => exact mirrors_signal e s told
    | alarm source generation => exact mirrors_alarm e s told source generation
    | wait ms => exact mirrors_none e told rfl rfl
    | addOnEvent l => exact mirrors_none e told rfl rfl
    | addOnError l => exact mirrors_none e told rfl rfl

end

/-! ### The token -/

/-- When the token `after` a response is the last one that the document was told: always, unless the
    changes `BreaksOn` behind a new one. -/
theorem Follows.iff {e : Engine σ} {page : σ} {response : Option Response}
    {new : List Instruction} {before after : Option String}
    (h : Follows e page response new before after) :
    after = (tokensOf new).getLast?.or before ↔
      ¬ (e.BreaksOn page response ∧ ∃ token, (tokensOf new).getLast? = some token ∧
        before ≠ some token) := by
  by_cases hbreaks : e.BreaksOn page response
  · rw [h.stays hbreaks]
    cases (tokensOf new).getLast? with
    | none => simp
    | some token => simp [hbreaks]
  · simp [h.follows hbreaks, hbreaks]

/-- **The token.** On every input `i` the token of the engine follows what the document is told of
    the response that is processed. It is the last token that the document was told in all cases but
    one: the changes brought another token, and then ended in a failure. -/
theorem viewState_step (e : Engine σ) (s : EngineState σ) (told : List Instruction)
    (i : EngineInput) :
    ∃ new, e.noted.step i (s.noting told) = (e.step i s).noting (told ++ new) ∧
      Follows e s.page (s.processed? i) new s.viewState (e.step i s).viewState ∧
      ((e.step i s).viewState = (tokensOf new).getLast?.or s.viewState ↔
        ¬ (e.BreaksOn s.page (s.processed? i) ∧
          ∃ token, (tokensOf new).getLast? = some token ∧ s.viewState ≠ some token)) := by
  obtain ⟨new, hnoted, hfollows⟩ := mirrors_step e s told i
  exact ⟨new, hnoted, hfollows, hfollows.iff⟩

/-- An engine on `Page.document`, with the usual settings, for the case below. -/
def Page.engine : Engine Page where
  endpoint := (Recorder.engine {}).endpoint
  config := {}
  document := Page.document
  parser := {}

/-- A response with the new token `t2`, and with an insert next to an element that is not there. -/
def Response.drifting : Response where
  status := 200
  body := "<partial-response><changes>" ++
    "<update id=\"javax.faces.ViewState\"><![CDATA[t2]]></update>" ++
    "<insert id=\"n\"><after id=\"ghost\"><![CDATA[x]]></after></insert>" ++
    "</changes></partial-response>"

/-- The page has the token of `drifting`, which the engine does not learn of, as the insert behind
    it fails. -/
theorem viewState_drifts :
    let e := Page.engine
    let s := e.initial (Page.ofHtml "<div id=\"a\"></div>") { otherwise := { ending := .panic } }
    let i : EngineInput := .command (.respond .drifting { source := "a", request := ⟨1⟩ })
    s.processed? i = some .drifting ∧
      (tokensOf (e.noted.step i (s.noting [])).page.2).getLast? = some "t2" ∧
      (e.step i s).page.viewState = some "t2" ∧ (e.step i s).viewState = none := by
  decide +kernel

/-- **No drift without a failure.** In a run `is` in which no changes end in a failure, the token of
    the engine is the last one that the document was told. -/
theorem viewState_run (e : Engine σ) (is : List EngineInput) (s : EngineState σ)
    (told : List Instruction)
    (happlied : ∀ js i ks, is = js ++ i :: ks →
      ¬ e.BreaksOn (e.run js s).page ((e.run js s).processed? i)) :
    ∃ new, e.noted.run is (s.noting told) = (e.run is s).noting (told ++ new) ∧
      (e.run is s).viewState = (tokensOf new).getLast?.or s.viewState := by
  induction is generalizing s told with
  | nil => exact ⟨[], by rw [List.append_nil]; rfl, rfl⟩
  | cons i is ih =>
    obtain ⟨new, hnoted, hfollows⟩ := mirrors_step e s told i
    have htoken := hfollows.follows (happlied [] i is rfl)
    have hlater : ∀ js j ks, is = js ++ j :: ks →
        ¬ e.BreaksOn (e.run js (e.step i s)).page ((e.run js (e.step i s)).processed? j) :=
      fun js j ks hjs => happlied (i :: js) j ks (congrArg (i :: ·) hjs)
    obtain ⟨later, hrun, htoken'⟩ := ih (e.step i s) (told ++ new) hlater
    refine ⟨new ++ later, ?_, ?_⟩
    · show e.noted.run is (e.noted.step i (s.noting told)) = _
      rw [hnoted, hrun, List.append_assoc]
      rfl
    · show (e.run is (e.step i s)).viewState = _
      rw [htoken', htoken, tokensOf_append, List.getLast?_append, Option.or_assoc]

end PagePatch
