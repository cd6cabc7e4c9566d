import Mathlib.Data.List.Forall2
import PagePatch.Engine.Basic
import PagePatch.Proofs.Engine.Response
import PagePatch.Proofs.Queue.Conservation
import PagePatch.Proofs.Transport.Course

namespace PagePatch

/-!
# What a step of the engine can do

An engine has one request in flight at most. A step may end it, and it may send another one.

* `Steady` — what holds of an engine between two steps;
* `Ending` — how a request in flight ends, and what the listeners are told then;
* `Hearing` — the outcome of an exchange as it is heard, and `Engine.Closes` — the block that it
  closes: a response ends it one way, a deadline or a failure the other;
* `Turn` — a step: the request that it ended and the one that it sent;
* `turn_of_step` — a step of a steady engine is a turn, unless a response is handed in (`Aside`) or
  the engine is shut down.
-/

variable {σ : Type}

/-! ### What is made known -/

/-- The notice that was `raised`, if that is what was made known. -/
def Output.notice? : Output → Option Notice
  | raised n _ => some n
  | _ => none

/-- The request that was `sent`, if its exchange started. -/
def Output.request? : Output → Option Request
  | sent r => some r
  | _ => none

/-- The notices among `outs`, in order. -/
def noticesOf (outs : List Output) : List Notice :=
  outs.filterMap Output.notice?

/-- The requests among `outs` that were sent, in order. -/
def requestsOf (outs : List Output) : List Request :=
  outs.filterMap Output.request?

@[simp] theorem noticesOf_append (a b : List Output) :
    noticesOf (a ++ b) = noticesOf a ++ noticesOf b :=
  List.filterMap_append

@[simp] theorem requestsOf_append (a b : List Output) :
    requestsOf (a ++ b) = requestsOf a ++ requestsOf b :=
  List.filterMap_append

/-! ### Requests in flight -/

namespace Entry

/-- The entry as it is sent: its request is given the `token` unless it has one of its own. -/
def carrying (e : Entry) (token : Option String) : Entry :=
  { e with request := e.request.withViewState token }

/-- Whom the response to an entry belongs to, as `Engine.complete` hands it to the processing. -/
def context (e : Entry) : ResponseContext where
  source := e.source
  request := e.id
  callbacks := e.callbacks

/-- The notice that the request of an entry begins, which `Engine.dispatch` raises. -/
def beginning (e : Entry) : Notice :=
  .event { status := .begin, source := e.source, request := e.id }

end Entry

/-- How a request in flight ends, for those who listen; `Ending.notices` is what they are told. -/
inductive Ending where
  /-- The response `r` came, and went the way of the verdict `v`. -/
  | answered (r : Response) (v : Verdict)
  /-- No response will come, for the reason that `description` gives. -/
  | lost (description : String)

/-- What the listeners are told at the end of the request of `e`: of a response and then of its
    verdict, or of the one failure. -/
def Ending.notices (e : Entry) : Ending → List Notice
  | answered r v =>
    [.event { status := .complete, source := e.source, request := e.id,
              response := some (r.status, r.body) },
      v.notice e.context r]
  | lost description =>
    [.error { kind := .httpError, description, source := e.source, request := e.id }]

/-- A request from its begin to its end, as the listeners hear of it: the `entry` and its
    `ending`. -/
structure Block where
  /-- The entry, as it was sent with its token. -/
  entry : Entry
  /-- How the request ended. -/
  ending : Ending

/-- What the listeners are told at the end of the request of `b`. -/
def Block.closing (b : Block) : List Notice :=
  b.ending.notices b.entry

/-- What the listeners are told of the request of `b`, from its begin to its end. -/
def Block.notices (b : Block) : List Notice :=
  b.entry.beginning :: b.closing

/-- The entry of the request in flight in `s`, without its handle. -/
def EngineState.flight (s : EngineState σ) : Option Entry :=
  s.inFlight.map InFlight.entry

/-! ### Outcomes of exchanges -/

/-- The outcome of an exchange, as the engine hears it: a `Hearing` is what it takes to tell which
    block ends. -/
structure Hearing (σ : Type) where
  /-- The entry whose exchange it is, as it was sent. -/
  entry : Entry
  /-- The last signal of the exchange: it is done, or its deadline has passed, or it failed. -/
  signal : Signal
  /-- The page at that time, on which a response is processed. -/
  page : σ

/-- The outcome of an exchange among what its handle gives out: a signal that is the last one,
    `Signal.isTerminal`. -/
def Heard.outcome? : Heard → Option Signal
  | signal s => if s.isTerminal then some s else none
  | _ => none

/-- The outcome that is heard on the input `i`: the engine asks the exchange in flight for its next
    signal, and that is the last one. -/
def EngineState.heard? (s : EngineState σ) (i : EngineInput) : Option (Hearing σ) :=
  if s.closed then none
  else
    match i with
    | .signal => s.inFlight.bind fun f =>
      (f.handle.elapse s.now).next.1.outcome?.map fun signal => ⟨f.entry, signal, s.page⟩
    | _ => none

/-- An outcome is heard on no other input `i` than a signal. -/
theorem EngineState.heard?_of_ne (s : EngineState σ) {i : EngineInput} (hi : i ≠ .signal) :
    s.heard? i = none := by
  unfold heard?
  cases i with
  | signal => exact absurd rfl hi
  | _ => exact ite_self none

/-- Whether an outcome is heard is decided by `heard`, which the handle of the request in flight
    gives out next. -/
theorem EngineState.heard?_of_next {s : EngineState σ} {f : InFlight} {heard : Heard} {h : Handle}
    (hopen : s.closed = false) (hf : s.inFlight = some f)
    (hnext : (f.handle.elapse s.now).next = (heard, h)) :
    s.heard? .signal = heard.outcome?.map fun signal => ⟨f.entry, signal, s.page⟩ := by
  rw [heard?, hopen, if_neg Bool.false_ne_true]
  simp only [hf, Option.bind_some, hnext]

/-- The block that an outcome closes: that of its own entry, which ends in the way of the outcome.
    The three kinds of outcomes exclude one another, so that a `Hearing` closes one block. -/
inductive Engine.Closes (e : Engine σ) : Hearing σ → Block → Prop
  /-- The exchange is done and brings the response `r`, which goes the way `v` on the page. -/
  | answered {entry : Entry} {event : TransportEvent} {page page' : σ} {r : Response} {v : Verdict}
      (hdone : event.stage = .done) (hresponse : event.response? = some r)
      (hjudged : e.processor.Judges e.document r page v page') :
      Closes e ⟨entry, .stage event, page⟩ ⟨entry, .answered r v⟩
  /-- The deadline of the request has passed after `ms` milliseconds. -/
  | late {entry : Entry} {ms : Nat} {page : σ} :
      Closes e ⟨entry, .timeout ms, page⟩
        ⟨entry, .lost (Error.requestTimeout entry.id ms).message⟩
  /-- The exchange failed, as `message` tells. -/
  | failed {entry : Entry} {message : String} {page : σ} :
      Closes e ⟨entry, .failed message, page⟩ ⟨entry, .lost message⟩

/-! ### Steady engines -/

/-- What holds of an engine in the state `s` between two inputs, until it is shut down. -/
structure Steady (s : EngineState σ) : Prop where
  /-- It was not shut down. -/
  running : s.closed = false
  /-- The queue is in order, so it has no backlog while it is idle. -/
  queue : s.queue.Valid
  /-- The queue and the engine agree on the request in flight: the one has its id, the other its
      entry. -/
  current : s.queue.current = s.flight.map Entry.id
  /-- The handle of the request in flight has not come to its end, so an outcome will be heard. -/
  listens : ∀ f, s.inFlight = some f → f.handle.Listens

/-- A new engine on `page` is steady: nothing waits and nothing is in flight. -/
theorem steady_initial (e : Engine σ) (page : σ) (server : Server) :
    Steady (e.initial page server) where
  running := rfl
  queue := ⟨fun _ => rfl, List.nodup_nil⟩
  current := rfl
  listens f hf := absurd hf.symm (Option.some_ne_none f)

/-! ### Sending -/

/-- The engine goes from `s` to `s'` and sends `started`, if it is one. -/
structure Sends (s : EngineState σ) (started : Option Entry) (s' : EngineState σ) : Prop where
  /-- The queue stays as it is. -/
  queue : s'.queue = s.queue
  /-- The engine goes on. -/
  closed : s'.closed = s.closed
  /-- What is sent is in flight from now on. -/
  flight : s'.flight = started.or s.flight
  /-- The handle of what is sent has the whole course before it. -/
  listens : (∀ f, s.inFlight = some f → f.handle.Listens) →
    ∀ f, s'.inFlight = some f → f.handle.Listens
  /-- The listeners are told that it begins, and its exchange starts; nothing else is made known. -/
  history : ∃ outs, s'.history = s.history ++ outs ∧
    noticesOf outs = started.toList.map Entry.beginning ∧
    requestsOf outs = started.toList.map Entry.request

/-- Nothing is sent in `s` where at most alarms and what is on the way change. -/
theorem sends_none (s : EngineState σ) : Sends s none s where
  queue := rfl
  closed := rfl
  flight := rfl
  listens h := h
  history := ⟨[], (List.append_nil _).symm, rfl, rfl⟩

/-- What `Engine.dispatch` does: an entry is sent as it carries the token of the engine. -/
theorem sends_dispatch (e : Engine σ) (entry : Entry) (s : EngineState σ) :
    Sends s (some (entry.carrying s.viewState)) (e.dispatch entry s) where
  queue := rfl
  closed := rfl
  flight := rfl
  listens := by
    rintro - _ ⟨⟩
    exact Handle.listens_start _ _ _ _
  history := by
    refine ⟨[.raised entry.beginning (s.listeners.send entry.callbacks entry.beginning).1,
      .sent (entry.carrying s.viewState).request], ?_, rfl, rfl⟩
    show (s.history ++ [_]) ++ [_] = _
    rw [List.append_assoc]
    rfl

/-- What `Engine.settleAdmission` does: an entry that the queue started is sent; otherwise nothing
    is. -/
theorem sends_settleAdmission (e : Engine σ) (a : Admission) (s : EngineState σ) :
    Sends s (a.started.map (·.carrying s.viewState)) (e.settleAdmission a s) := by
  cases a with
  | dispatch entry => exact sends_dispatch e entry s
  | queued evicted => exact sends_none s
  | deferred source generation delay replaced =>
    exact ⟨rfl, rfl, rfl, fun h => h, [], (List.append_nil _).symm, rfl, rfl⟩

/-- What `Engine.finish` does: at the end of a request the next one is sent, if one waits. -/
theorem sends_finish (e : Engine σ) (id : RequestId) (s : EngineState σ) :
    Sends { s with queue := (s.queue.complete id).2 }
      ((s.queue.complete id).1.map (·.carrying s.viewState)) (e.finish id s) := by
  unfold Engine.finish
  rcases s.queue.complete id with ⟨_ | entry, queue⟩
  · exact sends_none _
  · exact sends_dispatch e entry _

/-! ### Ending -/

/-- The ids of the requests that the engine is asked to take in: one for an `enqueue`, and else
    none. -/
def EngineInput.taken : EngineInput → List RequestId
  | command (.enqueue entry) => [entry.id]
  | _ => []

/-- The entries that leave the queue `q` without being sent: driven out by a bound, replaced, or
    cancelled. -/
def EngineInput.dropped (q : Queue) : EngineInput → List Entry
  | command (.enqueue entry) => q.evictedBy entry.queueSize ++ (q.enqueue entry).1.dropped
  | command (.resize maxSize) => (q.resize maxSize).1
  | command .cancelAll | command .shutdown => q.kept
  | alarm source generation => (q.release source generation).1.elim [] Admission.dropped
  | _ => []

/-- Whether the input is a `respond`, which hands in a response that did not come from an
    exchange. -/
def EngineInput.handsIn : EngineInput → Bool
  | command (.respond ..) => true
  | _ => false

/-- On the input `i` the engine goes from `s` to `s'`, where the request of the block `ended` is no
    longer in flight. -/
structure Ends (s : EngineState σ) (i : EngineInput) (ended : Option Block) (s' : EngineState σ) :
    Prop where
  /-- The engine goes on, as the shutdown is left out here. -/
  running : s'.closed = false
  /-- What ends was in flight before. -/
  owner : ∀ b, ended = some b → s.flight = some b.entry
  /-- It is in flight no longer, and without an end everything is as before. -/
  flight : s'.flight = if ended.isSome then none else s.flight
  /-- A handle is left only if it has not come to its end. -/
  listens : ∀ f, s'.inFlight = some f → f.handle.Listens
  /-- The listeners are told how it ended, and no exchange starts. -/
  history : ∃ outs, s'.history = s.history ++ outs ∧
    noticesOf outs = ended.toList.flatMap Block.closing ∧ requestsOf outs = []

namespace Steady

variable {s s₁ : EngineState σ} {i : EngineInput}

/-- Nothing ends while the queue changes from `s` to `s₁`, if no notice is among what is made
    known. -/
theorem ends_none (hs : Steady s) (hclosed : s₁.closed = s.closed) (hflight : s₁.flight = s.flight)
    (hlistens : ∀ f, s₁.inFlight = some f → f.handle.Listens)
    (hhistory : ∃ outs, s₁.history = s.history ++ outs ∧ noticesOf outs = [] ∧
      requestsOf outs = []) : Ends s i none s₁ where
  running := hclosed.trans hs.running
  owner b hb := absurd hb.symm (Option.some_ne_none b)
  flight := hflight
  listens := hlistens
  history := hhistory

/-- Nothing ends from `s` to `s₁`, and nothing at all is made known. -/
theorem ends_silent (hs : Steady s) (hclosed : s₁.closed = s.closed)
    (hflight : s₁.flight = s.flight) (hlistens : ∀ f, s₁.inFlight = some f → f.handle.Listens)
    (hhistory : s₁.history = s.history) : Ends s i none s₁ :=
  hs.ends_none hclosed hflight hlistens
    ⟨[], hhistory.trans (List.append_nil _).symm, rfl, rfl⟩

/-- The request in flight ends in the way of `ending`, and no other one is sent yet. -/
theorem ends_some (hs : Steady s) {f : InFlight} (hf : s.inFlight = some f) (ending : Ending)
    (hclosed : s₁.closed = s.closed) (hidle : s₁.inFlight = none)
    (hhistory : ∃ outs, s₁.history = s.history ++ outs ∧
      noticesOf outs = ending.notices f.entry ∧ requestsOf outs = []) :
    Ends s i (some ⟨f.entry, ending⟩) s₁ where
  running := hclosed.trans hs.running
  owner := by
    rintro _ ⟨⟩
    exact congrArg (Option.map InFlight.entry) hf
  flight := congrArg (Option.map InFlight.entry) hidle
  listens g hg := absurd (hidle.symm.trans hg).symm (Option.some_ne_none g)
  history := by
    obtain ⟨outs, houts, hnotices, hrequests⟩ := hhistory
    refine ⟨outs, houts, ?_, hrequests⟩
    rw [hnotices]
    exact (List.append_nil _).symm

end Steady

/-- The processing of the response `r` goes the way of some verdict `v` on the page, whose summary
    it hands back and whose notice is all that it makes known. -/
theorem history_process (e : Engine σ) (ctx : ResponseContext) (r : Response)
    (s : EngineState σ) : ∃ (v : Verdict) (page' : σ) (calls : List Call),
      e.processor.Judges e.document r s.page v page' ∧ (e.process ctx r s).1 = v.summary ∧
      (e.process ctx r s).2.history = s.history ++ [.raised (v.notice ctx r) calls] := by
  obtain ⟨v, page', hv⟩ := e.processor.judges_total e.document r s.page
  refine ⟨v, page', (s.listeners.send ctx.callbacks (v.notice ctx r)).1, hv, ?_, ?_⟩
  -- what the engine adds around the processing touches neither the summary nor the history
  · show (e.processor.process e.document s.listeners ctx r s.page).summary = _
    rw [Processor.process_of_judges hv]
    rfl
  · show s.history ++
      List.map _ (e.processor.process e.document s.listeners ctx r s.page).raised = _
    rw [Processor.process_of_judges hv]
    rfl

/-- A request is lost, and the next one is sent: `Engine.fail` closes the block of the request in
    flight with `description` and goes on with `Engine.finish`. -/
theorem fail_eq_finish (e : Engine σ) {s : EngineState σ} {f : InFlight} (hs : Steady s)
    (hf : s.inFlight = some f) (description : String) :
    ∃ s', Ends s .signal (some ⟨f.entry, .lost description⟩) s' ∧ s'.queue = s.queue ∧
      e.fail f.entry description { s with inFlight := none } = e.finish f.entry.id s' := by
  let lost : Notice := .error {
    kind := .httpError, description, source := f.entry.source, request := f.entry.id }
  refine ⟨EngineState.raise { s with inFlight := none } f.entry.callbacks lost,
    hs.ends_some hf (.lost description) rfl rfl ?_, rfl, rfl⟩
  exact ⟨[.raised lost (s.listeners.send f.entry.callbacks lost).1], rfl, rfl, rfl⟩

/-- A request is answered, and the next one is sent: `Engine.complete` closes the block of the
    request in flight with the way that the response `r` goes, and goes on with `Engine.finish`. -/
theorem complete_eq_finish (e : Engine σ) {s : EngineState σ} {f : InFlight} (hs : Steady s)
    (hf : s.inFlight = some f) (r : Response) :
    ∃ v page' s', e.processor.Judges e.document r s.page v page' ∧
      Ends s .signal (some ⟨f.entry, .answered r v⟩) s' ∧ s'.queue = s.queue ∧
      e.complete f.entry r { s with inFlight := none } = e.finish f.entry.id s' := by
  let completed : Notice := .event {
    status := .complete
    source := f.entry.source
    request := f.entry.id
    response := some (r.status, r.body) }
  let s₁ := EngineState.raise { s with inFlight := none } f.entry.callbacks completed
  obtain ⟨v, page', calls, hv, -, hhistory⟩ := history_process e f.entry.context r s₁
  refine ⟨v, page', (e.process f.entry.context r s₁).2, hv,
    hs.ends_some hf (.answered r v) rfl rfl ?_, rfl, rfl⟩
  refine ⟨[.raised completed (s.listeners.send f.entry.callbacks completed).1,
    .raised (v.notice f.entry.context r) calls], ?_, rfl, rfl⟩
  exact hhistory.trans (List.append_assoc ..)

/-- After an outcome the request in flight has ended in the block that the outcome closes, and what
    is left to do is `Engine.finish`, which sends the next one. -/
theorem hear_eq_finish (e : Engine σ) {s : EngineState σ} {f : InFlight} {signal : Signal}
    (hs : Steady s) (hf : s.inFlight = some f) (hlast : signal.isTerminal = true)
    (hkept : signal ≠ .aborted) (flight : Option InFlight) :
    ∃ b s', e.Closes ⟨f.entry, signal, s.page⟩ b ∧ Ends s .signal (some b) s' ∧
      s'.queue = s.queue ∧
      e.hear f.entry signal { s with inFlight := flight } = e.finish f.entry.id s' := by
  cases signal with
  | stage event =>
    -- the last stage is the one that is done, and then there is a response
    have hdone : event.stage = .done := eq_of_beq hlast
    obtain ⟨r, hr⟩ := TransportEvent.response?_of_done hdone
    obtain ⟨v, page', s', hv, hends⟩ := complete_eq_finish e hs hf r
    simp only [Engine.hear, hdone, if_true, hr]
    exact ⟨_, s', .answered hdone hr hv, hends⟩
  | timeout ms =>
    obtain ⟨s', hends⟩ := fail_eq_finish e hs hf (Error.requestTimeout f.entry.id ms).message
    exact ⟨_, s', .late, hends⟩
  | failed message =>
    obtain ⟨s', hends⟩ := fail_eq_finish e hs hf message
    exact ⟨_, s', .failed, hends⟩
  | aborted => exact absurd rfl hkept

/-! ### Turns -/

/-- On the input `i` the engine goes from `s` to `s'`. It may end the request in flight, and then it
    may send one. This is all that a step does, as far as it can be told from outside. -/
structure Turn (s : EngineState σ) (i : EngineInput) (ended : Option Block)
    (started : Option Entry) (s' : EngineState σ) : Prop where
  /-- The engine is steady again, so the next step is a turn as well. -/
  steady : Steady s'
  /-- What ends was in flight before. -/
  owner : ∀ b, ended = some b → s.flight = some b.entry
  /-- What is sent is in flight instead. -/
  flight : s'.flight = started.or (if ended.isSome then none else s.flight)
  /-- Nothing is sent before the request in flight has ended. -/
  alone : started.isSome → (if ended.isSome then none else s.flight) = none
  /-- What the queue kept or took in is there still, was sent or was dropped. -/
  conserved : (i.taken ++ idsOf s.queue.kept).Perm
    (idsOf started.toList ++ idsOf s'.queue.kept ++ idsOf (i.dropped s.queue))
  /-- The listeners are told of the end and of the begin, in this order. -/
  history : ∃ outs, s'.history = s.history ++ outs ∧
    noticesOf outs = ended.toList.flatMap Block.closing ++ started.toList.map Entry.beginning ∧
    requestsOf outs = started.toList.map Entry.request

/-- A turn from its parts: it ends a request (`Ends`), moves the queue (`Queue.Flow`), and sends
    what the queue started (`Sends`). -/
theorem turn_of_sends {s s₁ s' : EngineState σ} {i : EngineInput} {ended : Option Block}
    {started : Option Entry} {token : Option String} (hends : Ends s i ended s₁)
    (hflow : Queue.Flow { s.queue with current := s₁.flight.map Entry.id } i.taken started
      (i.dropped s.queue) s₁.queue)
    (hsends : Sends s₁ (started.map (·.carrying token)) s') :
    Turn s i ended (started.map (·.carrying token)) s' where
  steady := {
    running := hsends.closed.trans hends.running
    queue := hsends.queue ▸ hflow.valid
    current := by
      rw [hsends.queue, hsends.flight, hflow.current]
      cases started <;> rfl
    listens := hsends.listens hends.listens }
  owner := hends.owner
  flight := by
    rw [hsends.flight, hends.flight]
  alone := by
    intro hsome
    rw [Option.isSome_map] at hsome
    have hidle := hflow.alone hsome
    rw [hends.flight] at hidle
    exact Option.map_eq_none_iff.mp hidle
  conserved := by
    -- a token goes into the request of an entry and leaves its id alone
    have hids : idsOf (started.map (·.carrying token)).toList = idsOf started.toList := by
      cases started <;> rfl
    rw [hids, hsends.queue]
    exact hflow.conserved
  history := by
    obtain ⟨ending, hending, hclosing, hnone⟩ := hends.history
    obtain ⟨sending, hsending, hbegin, hrequest⟩ := hsends.history
    refine ⟨ending ++ sending, ?_, ?_, ?_⟩
    · rw [hsending, hending, List.append_assoc]
    · rw [noticesOf_append, hclosing, hbegin]
    · rw [requestsOf_append, hnone, hrequest]
      rfl

namespace Steady

variable {s : EngineState σ}

/-- The queue of a steady engine has the request in flight as its `current` one. -/
theorem queue_eq (hs : Steady s) : { s.queue with current := s.flight.map Entry.id } = s.queue := by
  rw [← hs.current]

/-- A turn that ends nothing: the queue moves by `hflow`, and what it `started` is sent. -/
theorem turn_of_flow (hs : Steady s) {s₁ s' : EngineState σ} {i : EngineInput}
    {started : Option Entry} (token : Option String)
    (hflow : Queue.Flow s.queue i.taken started (i.dropped s.queue) s₁.queue)
    (hends : Ends s i none s₁) (hsends : Sends s₁ (started.map (·.carrying token)) s') :
    Turn s i none (started.map (·.carrying token)) s' := by
  refine turn_of_sends hends ?_ hsends
  rw [hends.flight]
  simp only [Option.isSome_none, Bool.false_eq_true, if_false]
  rwa [hs.queue_eq]

/-- A turn from `s` to `s'` that ends nothing and sends nothing; the queue may have moved all the
    same. -/
theorem turn_quiet (hs : Steady s) {s' : EngineState σ} {i : EngineInput}
    (hflow : Queue.Flow s.queue i.taken none (i.dropped s.queue) s'.queue)
    (hends : Ends s i none s') : Turn s i none none s' :=
  hs.turn_of_flow none hflow hends (sends_none s')

end Steady

/-- What the queue admits by `a` is sent, whether it was just taken in or released by an alarm. -/
theorem turn_of_admission (e : Engine σ) {s : EngineState σ} {i : EngineInput} (hs : Steady s)
    (a : Option Admission) (s₁ : EngineState σ)
    (hflow : Queue.Flow s.queue i.taken (a.bind Admission.started) (i.dropped s.queue) s₁.queue)
    (hends : Ends s i none s₁) :
    ∃ started, Turn s i none started (a.elim s₁ fun a => e.settleAdmission a s₁) := by
  cases a with
  | none => exact ⟨_, hs.turn_of_flow none hflow hends (sends_none s₁)⟩
  | some a => exact ⟨_, hs.turn_of_flow _ hflow hends (sends_settleAdmission e a s₁)⟩

/-- A `signal` before the last one is heard, but nothing is done about it. -/
theorem hear_of_stage (e : Engine σ) (entry : Entry) {signal : Signal}
    (hgoes : signal.isTerminal = false) (s : EngineState σ) : e.hear entry signal s = s := by
  cases signal with
  | stage event =>
    have hstage : event.stage ≠ .done := ne_of_beq_false hgoes
    simp only [Engine.hear, hstage, if_false]
  | timeout ms => cases hgoes
  | failed message => cases hgoes
  | aborted => cases hgoes

/-- **The queue moves on.** After an outcome the request of `f` in flight has ended in the block `b`
    that the outcome closes, and the oldest waiting one is sent. -/
theorem turn_of_outcome (e : Engine σ) {s : EngineState σ} {f : InFlight} {signal : Signal}
    (hs : Steady s) (hf : s.inFlight = some f) (hlast : signal.isTerminal = true)
    (hkept : signal ≠ .aborted) (flight : Option InFlight) :
    ∃ b token, e.Closes ⟨f.entry, signal, s.page⟩ b ∧
      Turn s .signal (some b) (s.queue.pending.head?.map (·.carrying token))
        (e.hear f.entry signal { s with inFlight := flight }) ∧
      (e.hear f.entry signal { s with inFlight := flight }).queue.pending =
        s.queue.pending.tail := by
  obtain ⟨b, s₁, hcloses, hends, hqueue, heq⟩ := hear_eq_finish e hs hf hlast hkept flight
  have hid : s.queue.current = some f.entry.id := by
    rw [hs.current, EngineState.flight, hf]
    rfl
  -- the queue is looked at between the end of the one request and the begin of the other, when it
  -- has no current request
  have hflow := Queue.flow_complete hid hs.queue
  have hends' : Ends s .signal (some b) { s₁ with queue := (s.queue.complete f.entry.id).2 } :=
    ⟨hends.running, hends.owner, hends.flight, hends.listens, hends.history⟩
  -- the token is the one after the response was processed, which may have brought it
  have hsends := sends_finish e f.entry.id s₁
  rw [← heq, hqueue] at hsends
  rw [Queue.complete_eq hid] at hflow hends' hsends
  refine ⟨b, s₁.viewState, hcloses, turn_of_sends hends' ?_ hsends, ?_⟩
  · rw [hends'.flight]
    exact hflow
  · rw [hsends.queue]

/-- What the engine makes of a signal: a block has `ended` exactly if an outcome is heard, and it is
    the one that the outcome closes. -/
theorem turn_of_signal (e : Engine σ) {s : EngineState σ} (hs : Steady s) :
    ∃ ended started, List.Forall₂ e.Closes (s.heard? .signal).toList ended.toList ∧
      Turn s .signal ended started (e.takeSignal s) := by
  unfold Engine.takeSignal
  cases hf : s.inFlight with
  | none =>
    have hnone : s.heard? .signal = none := by
      rw [EngineState.heard?, hs.running, hf]
      rfl
    rw [hnone]
    exact ⟨none, none, .nil,
      hs.turn_quiet (.refl hs.queue) (hs.ends_silent rfl rfl hs.listens rfl)⟩
  | some f =>
    -- whatever the handle gives out, the entry of the request in flight stays the same
    have hgoes : ∀ h : Handle, h.Listens →
        Turn s .signal none none { s with inFlight := some { f with handle := h } } := by
      intro h hh
      refine hs.turn_quiet (.refl hs.queue) (hs.ends_silent rfl ?_ ?_ rfl)
      · exact (congrArg (Option.map InFlight.entry) hf).symm
      · rintro _ ⟨⟩
        exact hh
    have hlistens := (hs.listens f hf).elapse s.now
    -- three ways: no signal is there yet, one before the last, or the outcome
    cases hlistens.next with
    | pending hnext =>
      rw [EngineState.heard?_of_next hs.running hf hnext]
      simp only [hnext]
      exact ⟨none, none, .nil, hgoes _ hlistens⟩
    | stage hnext hstage hrest =>
      rw [EngineState.heard?_of_next hs.running hf hnext]
      simp only [hnext, hear_of_stage e _ hstage, Heard.outcome?, hstage]
      exact ⟨none, none, .nil, hgoes _ hrest⟩
    | outcome hnext hlast hkept =>
      rw [EngineState.heard?_of_next hs.running hf hnext]
      obtain ⟨b, token, hcloses, hturn, -⟩ := turn_of_outcome e hs hf hlast hkept _
      simp only [hnext, Heard.outcome?, hlast, if_true]
      exact ⟨some b, _, .cons hcloses .nil, hturn⟩

/-- What the engine makes of the alarm of `generation` for `source`: it may send a request, and it
    ends none. -/
theorem turn_of_alarm (e : Engine σ) {s : EngineState σ} (hs : Steady s) (source : String)
    (generation : Nat) :
    ∃ started, Turn s (.alarm source generation) none started
      (e.takeAlarm source generation s) := by
  have hflow := Queue.flow_release hs.queue source generation
  have hturn := turn_of_admission (i := .alarm source generation) e hs
    (s.queue.release source generation).1
    { s with
      queue := (s.queue.release source generation).2
      timers := s.timers.filter (· ≠ (source, generation))
      alarms := s.alarms.filter fun a => (a.source, a.generation) ≠ (source, generation) }
    hflow (hs.ends_silent rfl rfl hs.listens rfl)
  -- the step matches on the pair and the turn on its first part, so both are taken apart at once
  unfold Engine.takeAlarm
  revert hturn
  rcases s.queue.release source generation with ⟨_ | a, queue⟩ <;> exact id

/-- What the engine makes of the command `c`, if that neither hands a response in nor is the last
    one. -/
theorem turn_of_command (e : Engine σ) {s : EngineState σ} (hs : Steady s) {c : EngineCommand}
    (hhands : (EngineInput.command c).handsIn = false) (hstop : c ≠ .shutdown) :
    ∃ started, Turn s (.command c) none started (e.obey c s) := by
  cases c with
  | enqueue entry =>
    exact turn_of_admission e hs (some (s.queue.enqueue entry).1)
      { s with queue := (s.queue.enqueue entry).2 } (Queue.flow_enqueue hs.queue entry)
      (hs.ends_silent rfl rfl hs.listens rfl)
  | respond r ctx => cases hhands
  | cancelAll =>
    -- the request in flight goes on, so nothing ends here
    exact ⟨none, hs.turn_quiet (Queue.flow_cancelAll s.queue)
      (hs.ends_silent rfl rfl hs.listens rfl)⟩
  | resize maxSize =>
    exact ⟨none, hs.turn_quiet (Queue.flow_resize hs.queue maxSize)
      (hs.ends_silent rfl rfl hs.listens rfl)⟩
  | status =>
    exact ⟨none, hs.turn_quiet (.refl hs.queue)
      (hs.ends_none rfl rfl hs.listens ⟨[.status s.queue.status], rfl, rfl, rfl⟩)⟩
  | shutdown => exact absurd rfl hstop

/-- **What a step can do.** A steady engine makes a turn, unless a response is handed in or it is
    shut down. The turn ends a block exactly if the input `i` lets an outcome be heard, and then it
    is the block that the outcome closes. -/
theorem turn_of_step (e : Engine σ) {s : EngineState σ} (hs : Steady s) {i : EngineInput}
    (hhands : i.handsIn = false) (hstop : i ≠ .command .shutdown) :
    ∃ ended started, List.Forall₂ e.Closes (s.heard? i).toList ended.toList ∧
      Turn s i ended started (e.step i s) := by
  -- only a signal can end something; time and new listeners leave the queue alone
  cases i with
  | wait ms =>
    rw [s.heard?_of_ne (i := .wait ms) nofun]
    exact ⟨none, none, .nil,
      hs.turn_quiet (.refl hs.queue) (hs.ends_silent rfl rfl hs.listens rfl)⟩
  | addOnEvent l =>
    rw [s.heard?_of_ne (i := .addOnEvent l) nofun]
    exact ⟨none, none, .nil,
      hs.turn_quiet (.refl hs.queue) (hs.ends_silent rfl rfl hs.listens rfl)⟩
  | addOnError l =>
    rw [s.heard?_of_ne (i := .addOnError l) nofun]
    exact ⟨none, none, .nil,
      hs.turn_quiet (.refl hs.queue) (hs.ends_silent rfl rfl hs.listens rfl)⟩
  | alarm source generation =>
    rw [s.heard?_of_ne (i := .alarm source generation) nofun]
    simp only [Engine.step, hs.running, Bool.false_eq_true, if_false]
    obtain ⟨started, hturn⟩ := turn_of_alarm e hs source generation
    exact ⟨none, started, .nil, hturn⟩
  | signal =>
    simp only [Engine.step, hs.running, Bool.false_eq_true, if_false]
    exact turn_of_signal e hs
  | command c =>
    rw [s.heard?_of_ne (i := .command c) nofun]
    simp only [Engine.step, hs.running, Bool.false_eq_true, if_false]
    obtain ⟨started, hturn⟩ := turn_of_command e hs hhands fun hc => hstop (congrArg _ hc)
    exact ⟨none, started, .nil, hturn⟩

/-! ### Responses that are handed in -/

/-- From `s` to `s'` a response was processed that was handed in for `ctx`. It touched neither the
    queue nor the request in flight, and the listeners were told one thing. -/
structure Aside (s : EngineState σ) (ctx : ResponseContext) (s' : EngineState σ) : Prop where
  /-- The queue stays as it is. -/
  queue : s'.queue = s.queue
  /-- The request in flight stays in flight. -/
  inFlight : s'.inFlight = s.inFlight
  /-- The engine goes on. -/
  closed : s'.closed = s.closed
  /-- The listeners are told that it succeeded, or how it failed, and whoever handed it in gets the
      summary. -/
  history : ∃ (notice : Notice) (calls : List Call) (summary : Summary),
    s'.history = s.history ++ [.raised notice calls, .replied summary] ∧
    notice.request = ctx.request ∧ notice.Concludes summary.error

/-- What the engine makes of the response `r` that is handed in, whatever the engine is doing. -/
theorem aside_of_respond (e : Engine σ) {s : EngineState σ} (hopen : s.closed = false)
    (r : Response) (ctx : ResponseContext) :
    Aside s ctx (e.step (.command (.respond r ctx)) s) := by
  obtain ⟨v, -, calls, -, hsummary, hhistory⟩ := history_process e ctx r s
  simp only [Engine.step, hopen, Bool.false_eq_true, if_false]
  refine ⟨rfl, rfl, rfl, v.notice ctx r, calls, v.summary, ?_, v.notice_concludes ctx r⟩
  show (e.process ctx r s).2.history ++ [.replied (e.process ctx r s).1] = _
  rw [hhistory, hsummary, List.append_assoc]
  rfl

/-- The engine stays `Steady` over a response that is handed in. -/
theorem Aside.steady {s s' : EngineState σ} {ctx : ResponseContext} (h : Aside s ctx s')
    (hs : Steady s) : Steady s' where
  running := h.closed.trans hs.running
  queue := h.queue ▸ hs.queue
  current := by
    rw [h.queue, EngineState.flight, h.inFlight]
    exact hs.current
  listens := h.inFlight ▸ hs.listens

/-- There is only one command, `respond`, that hands a response in. -/
theorem EngineInput.eq_respond_of_handsIn {i : EngineInput} (h : i.handsIn = true) :
    ∃ r ctx, i = .command (.respond r ctx) := by
  unfold handsIn at h
  split at h
  · exact ⟨_, _, rfl⟩
  · cases h

/-- **Steady on.** On every input `i` but the shutdown a steady engine stays steady. -/
theorem steady_step (e : Engine σ) {s : EngineState σ} (hs : Steady s) {i : EngineInput}
    (hstop : i ≠ .command .shutdown) : Steady (e.step i s) := by
  cases hhands : i.handsIn with
  | false =>
    obtain ⟨_, _, -, hturn⟩ := turn_of_step e hs hhands hstop
    exact hturn.steady
  | true =>
    obtain ⟨r, ctx, rfl⟩ := EngineInput.eq_respond_of_handsIn hhands
    exact (aside_of_respond e hs.running r ctx).steady hs

end PagePatch
