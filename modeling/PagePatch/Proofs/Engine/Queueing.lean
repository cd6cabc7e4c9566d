import PagePatch.Proofs.Engine.Narration
import PagePatch.Proofs.Engine.Token
import PagePatch.Proofs.Queue.Deferral

namespace PagePatch

/-!
# What the queue of an engine is told

On every input the engine tells its queue one thing at most. The alarms, the token and the requests
that are sent follow from that, and from the response that is processed.

* `EngineState.queueCommand?` — what the queue is told on an input;
* `Engine.recorded?` — the token that is remembered on an input;
* `Acts`, `acts_step` — what an input comes to;
* `Engine.commandsIn`, `queue_run` — the queue of an engine after a run is the queue after what it
  was told.
-/

variable {σ : Type}

/-! ### What comes of an input -/

/-- Whether the last signal of an exchange is heard, one that `isTerminal`, so that its request
    ends. -/
def Heard.isLast : Heard → Bool
  | signal s => s.isTerminal
  | _ => false

/-- What the queue is told on a command of the engine. A `shutdown` cancels everything first. -/
def EngineCommand.queueCommand? : EngineCommand → Option QueueCommand
  | enqueue entry => some (.enqueue entry)
  | cancelAll | shutdown => some .cancelAll
  | resize maxSize => some (.resize maxSize)
  | respond .. | status => none

namespace EngineState

/-- The entry in flight in `s`, if the outcome of its exchange is heard next. -/
def ending? (s : EngineState σ) : Option Entry :=
  s.inFlight.bind fun f => if (f.handle.elapse s.now).next.1.isLast then some f.entry else none

/-- What the queue is told on the input `i`, if it is told anything. -/
def queueCommand? (s : EngineState σ) (i : EngineInput) : Option QueueCommand :=
  if s.closed then none
  else
    match i with
    | .command c => c.queueCommand?
    | .alarm source generation => some (.release source generation)
    | .signal => s.ending?.map fun entry => .complete entry.id
    | _ => none

/-- The deferrals that have an alarm after the queue of `s` was told something, by source and
    number. -/
def timersAfter (s : EngineState σ) : Option QueueCommand → List (String × Nat)
  | some (.enqueue entry) =>
    if entry.isDelayed then
      s.timers.filter (·.1 ≠ entry.source) ++ [(entry.source, s.queue.lastGeneration + 1)]
    else s.timers
  | some (.release source generation) => s.timers.filter (· ≠ (source, generation))
  | some .cancelAll => []
  | _ => s.timers

/-- The alarms that have not come yet after the queue of `s` was told something. A `cancelAll` takes
    none of them away: they come, and are stale. -/
def alarmsAfter (s : EngineState σ) : Option QueueCommand → List Alarm
  | some (.enqueue entry) =>
    if entry.isDelayed then
      s.alarms ++ [{
        source := entry.source
        generation := s.queue.lastGeneration + 1
        due := s.now + entry.delay.getD 0 }]
    else s.alarms
  | some (.release source generation) =>
    s.alarms.filter fun a => (a.source, a.generation) ≠ (source, generation)
  | _ => s.alarms

/-- The entry that the queue hands out to be sent when it is told `c`. -/
def startedBy (s : EngineState σ) (c : Option QueueCommand) : Option Entry :=
  c.bind fun c => (s.queue.obey c).1.started

end EngineState

/-- The token that the response `r` brings to a page; whom the response belongs to does not
    matter. -/
def Engine.tokenOf (e : Engine σ) (page : σ) (r : Response) : Option String :=
  (e.processor.process e.document {} { source := "", request := ⟨0⟩ } r page).summary.viewState

/-- The token that is remembered on the input `i`: that of the response that is processed on it. -/
def Engine.recorded? (e : Engine σ) (i : EngineInput) (s : EngineState σ) : Option String :=
  (s.processed? i).bind (e.tokenOf s.page)

/-- From `s` the engine goes to `s'`, when its queue is told `c` and `token` is remembered. The
    page, the listeners and the server are left out: nothing of the queue depends on them. -/
structure Acts (s : EngineState σ) (c : Option QueueCommand) (token : Option String)
    (s' : EngineState σ) : Prop where
  /-- The queue does what it is told. -/
  queue : s'.queue = c.elim s.queue fun c => (s.queue.obey c).2
  /-- A deferral gets an alarm in place of the one of its source, a release takes one away, and when
      everything is cancelled none is left. -/
  timers : s'.timers = s.timersAfter c
  /-- A new alarm is on the way; one that has come is not any more. -/
  alarms : s'.alarms = s.alarmsAfter c
  /-- The token is the last one that was remembered. -/
  viewState : s'.viewState = token.or s.viewState
  /-- What the queue hands out is sent with this token, unless it has one of its own. -/
  sent : ∃ outs, s'.history = s.history ++ outs ∧
    requestsOf outs = (s.startedBy c).toList.map fun entry =>
      entry.request.withViewState s'.viewState

section

variable {s s₁ s' : EngineState σ} {token : Option String}

/-- The queue is told nothing between `s` and `s'`, and nothing is sent; a `token` may be
    remembered. -/
theorem acts_none (hqueue : s'.queue = s.queue) (htimers : s'.timers = s.timers)
    (halarms : s'.alarms = s.alarms) (hviewState : s'.viewState = token.or s.viewState)
    (hhistory : ∃ outs, s'.history = s.history ++ outs ∧ requestsOf outs = []) :
    Acts s none token s' where
  queue := hqueue
  timers := htimers
  alarms := halarms
  viewState := hviewState
  sent := hhistory

/-- Nothing of all that changes between `s` and `s'`, as when time passes. -/
theorem acts_idle (hqueue : s'.queue = s.queue) (htimers : s'.timers = s.timers)
    (halarms : s'.alarms = s.alarms) (hviewState : s'.viewState = s.viewState)
    (hhistory : s'.history = s.history) : Acts s none none s' :=
  acts_none hqueue htimers halarms hviewState
    ⟨[], hhistory.trans (List.append_nil _).symm, rfl⟩

/-- What `Engine.settleAdmission` comes to, for an entry that the queue has placed: no alarm is
    started. -/
theorem acts_settleAdmission (e : Engine σ) {c : QueueCommand} {a : Admission}
    (hanswer : (s.queue.obey c).1 = .admission (some a))
    (hplaced : (QueueAnswer.admission (some a)).deferral = none)
    (hqueue : s₁.queue = (s.queue.obey c).2) (htimers : s₁.timers = s.timersAfter c)
    (halarms : s₁.alarms = s.alarmsAfter c) (hviewState : s₁.viewState = s.viewState)
    (hhistory : s₁.history = s.history) : Acts s (some c) none (e.settleAdmission a s₁) := by
  have hsends := sends_settleAdmission e a s₁
  have hkeeps : (e.settleAdmission a s₁).timers = s₁.timers ∧
      (e.settleAdmission a s₁).alarms = s₁.alarms ∧
      (e.settleAdmission a s₁).viewState = s₁.viewState := by
    -- only an entry that is held would start an alarm
    cases a with
    | dispatch entry => exact ⟨rfl, rfl, rfl⟩
    | queued evicted => exact ⟨rfl, rfl, rfl⟩
    | deferred source generation delay replaced => cases hplaced
  obtain ⟨outs, houts, -, hrequests⟩ := hsends.history
  refine {
    queue := hsends.queue.trans hqueue
    timers := hkeeps.1.trans htimers
    alarms := hkeeps.2.1.trans halarms
    viewState := hkeeps.2.2.trans hviewState
    sent := ⟨outs, hhistory ▸ houts, ?_⟩ }
  have hstarted : s.startedBy (some c) = a.started := by
    simp only [EngineState.startedBy, Option.bind_some, hanswer, QueueAnswer.started]
  rw [hrequests, hstarted, hkeeps.2.2]
  cases a.started <;> rfl

/-- The engine takes `entry` in: it is placed, or it is held and has an alarm. -/
theorem acts_enqueue (e : Engine σ) (s : EngineState σ) (entry : Entry) :
    Acts s (some (.enqueue entry)) none (e.obey (.enqueue entry) s) := by
  cases hdelayed : entry.isDelayed with
  | false =>
    have hplaced := Queue.deferral_place (s.queue.override entry.queueSize)
      { entry with delay := none }
    rw [← Queue.enqueue_of_not_delayed hdelayed] at hplaced
    exact acts_settleAdmission e rfl hplaced rfl (by simp [EngineState.timersAfter, hdelayed])
      (by simp [EngineState.alarmsAfter, hdelayed]) rfl rfl
  | true =>
    obtain ⟨ms, hdelay⟩ : ∃ ms, entry.delay = some (ms + 1) := by
      unfold Entry.isDelayed at hdelayed
      split at hdelayed
      · exact ⟨_, ‹_›⟩
      · cases hdelayed
    have henqueue : s.queue.enqueue entry =
        (s.queue.override entry.queueSize).defer entry (ms + 1) := by
      simp only [Queue.enqueue, hdelay]
    -- the bound of the entry is applied before its number is given, and leaves the numbers alone
    have hlast := Queue.override_lastGeneration s.queue entry.queueSize
    simp only [Engine.obey, henqueue, Queue.defer, Engine.settleAdmission, hlast]
    refine {
      queue := ?_
      timers := ?_
      alarms := ?_
      viewState := rfl
      sent := ⟨[], (List.append_nil _).symm, ?_⟩ }
    · simp only [Option.elim_some, Queue.obey, henqueue, Queue.defer, hlast]
      rfl
    · simp [EngineState.startTimer, EngineState.timersAfter, hdelayed]
    · simp [EngineState.startTimer, EngineState.alarmsAfter, hdelayed, hdelay]
    · simp [EngineState.startedBy, Queue.obey, henqueue, Queue.defer, QueueAnswer.started,
        Admission.started, requestsOf]

/-- A `release` places an entry and does not hold it again, so no deferral is told of. -/
theorem deferral_release (q : Queue) (source : String) (generation : Nat) :
    (QueueAnswer.admission (q.release source generation).1).deferral = none := by
  cases hfound : (q.deferral? source).filter (·.generation = generation) with
  | none =>
    rw [Queue.release_of_stale hfound]
    rfl
  | some held =>
    obtain ⟨hheld, rfl⟩ := Queue.held_of_filter hfound
    rw [Queue.release_of_held hheld]
    exact Queue.deferral_place _ _

/-- The alarm of `generation` for `source` has come, be it that of a held entry or a stale one. -/
theorem acts_takeAlarm (e : Engine σ) (s : EngineState σ) (source : String) (generation : Nat) :
    Acts s (some (.release source generation)) none (e.takeAlarm source generation s) := by
  have hplaced := deferral_release s.queue source generation
  unfold Engine.takeAlarm
  cases hrelease : s.queue.release source generation with
  | mk admission queue =>
    rw [hrelease] at hplaced
    have hobey : s.queue.obey (.release source generation) = (.admission admission, queue) := by
      rw [Queue.obey, hrelease]
    cases admission with
    | some a =>
      exact acts_settleAdmission e (congrArg Prod.fst hobey) hplaced (congrArg Prod.snd hobey).symm
        rfl rfl rfl rfl
    | none =>
      refine {
        queue := (congrArg Prod.snd hobey).symm
        timers := rfl
        alarms := rfl
        viewState := rfl
        sent := ⟨[], (List.append_nil _).symm, ?_⟩ }
      simp only [EngineState.startedBy, Option.bind_some, hobey]
      rfl

/-- The engine remembers the token that the response `r` brings, by `tokenOf`, and keeps its own
    without one. -/
theorem viewState_process (e : Engine σ) (ctx : ResponseContext) (r : Response)
    (s : EngineState σ) :
    (e.process ctx r s).2.viewState = (e.tokenOf s.page r).or s.viewState := by
  obtain ⟨v, page', hv⟩ := e.processor.judges_total e.document r s.page
  have htoken : e.tokenOf s.page r = v.outcome.viewState := by
    rw [Engine.tokenOf, Processor.process_of_judges hv]
    rfl
  rw [process_viewState hv, htoken]

/-- The engine acts on the command `c`. -/
theorem acts_obey (e : Engine σ) (s : EngineState σ) (c : EngineCommand) :
    Acts s c.queueCommand? (c.response?.bind (e.tokenOf s.page)) (e.obey c s) := by
  cases c with
  | enqueue entry => exact acts_enqueue e s entry
  | respond r ctx =>
    obtain ⟨v, -, calls, -, -, hhistory⟩ := history_process e ctx r s
    refine acts_none rfl rfl rfl (viewState_process e ctx r s)
      ⟨[.raised (v.notice ctx r) calls, .replied (e.process ctx r s).1], ?_, rfl⟩
    show (e.process ctx r s).2.history ++ [.replied (e.process ctx r s).1] = _
    rw [hhistory, List.append_assoc]
    rfl
  | cancelAll => exact ⟨rfl, rfl, rfl, rfl, [], (List.append_nil _).symm, rfl⟩
  | resize maxSize => exact ⟨rfl, rfl, rfl, rfl, [], (List.append_nil _).symm, rfl⟩
  | status => exact acts_none rfl rfl rfl rfl ⟨[.status s.queue.status], rfl, rfl⟩
  | shutdown => exact ⟨rfl, rfl, rfl, rfl, [], (List.append_nil _).symm, rfl⟩

/-- The request in flight has ended, and the queue is told so by `Engine.finish`. -/
theorem acts_finish (e : Engine σ) (id : RequestId) (hqueue : s₁.queue = s.queue)
    (htimers : s₁.timers = s.timers) (halarms : s₁.alarms = s.alarms)
    (hviewState : s₁.viewState = token.or s.viewState)
    (hhistory : ∃ outs, s₁.history = s.history ++ outs ∧ requestsOf outs = []) :
    Acts s (some (.complete id)) token (e.finish id s₁) := by
  obtain ⟨ending, hending, hnone⟩ := hhistory
  have hsends := sends_finish e id s₁
  have hkeeps : (e.finish id s₁).timers = s₁.timers ∧ (e.finish id s₁).alarms = s₁.alarms ∧
      (e.finish id s₁).viewState = s₁.viewState := by
    unfold Engine.finish
    rcases s₁.queue.complete id with ⟨_ | entry, queue⟩ <;> exact ⟨rfl, rfl, rfl⟩
  obtain ⟨outs, houts, -, hrequests⟩ := hsends.history
  refine {
    queue := ?_
    timers := hkeeps.1.trans htimers
    alarms := hkeeps.2.1.trans halarms
    viewState := hkeeps.2.2.trans hviewState
    sent := ⟨ending ++ outs, ?_, ?_⟩ }
  · rw [hsends.queue, hqueue]
    rfl
  · rw [houts, hending, List.append_assoc]
  · rw [requestsOf_append, hnone, hrequests, hkeeps.2.2, hqueue]
    show _ = (s.queue.complete id).1.toList.map _
    cases (s.queue.complete id).1 <;> rfl

/-- The outcome of the exchange of `entry` is heard, whichever `signal` it is. -/
theorem acts_hear (e : Engine σ) (entry : Entry) {signal : Signal}
    (hlast : signal.isTerminal = true) (flight : Option InFlight) :
    Acts s (some (.complete entry.id)) (signal.response?.bind (e.tokenOf s.page))
      (e.hear entry signal { s with inFlight := flight }) := by
  -- when no response comes, the listeners are told so, and that is all
  have hfail : ∀ description, Acts s (some (.complete entry.id)) none
      (e.fail entry description { s with inFlight := none }) := fun description =>
    acts_finish e entry.id rfl rfl rfl rfl ⟨[.raised _ _], rfl, rfl⟩
  cases signal with
  | stage event =>
    have hdone : event.stage = .done := eq_of_beq hlast
    obtain ⟨r, hr⟩ := TransportEvent.response?_of_done hdone
    simp only [Engine.hear, Signal.response?, hdone, if_true, hr]
    let completed : Notice := .event {
      status := .complete
      source := entry.source
      request := entry.id
      response := some (r.status, r.body) }
    let s₁ := EngineState.raise { s with inFlight := none } entry.callbacks completed
    obtain ⟨v, -, calls, -, -, hhistory⟩ := history_process e entry.context r s₁
    refine acts_finish e entry.id rfl rfl rfl (viewState_process e entry.context r s₁)
      ⟨[.raised completed (s.listeners.send entry.callbacks completed).1,
        .raised (v.notice entry.context r) calls], ?_, rfl⟩
    exact hhistory.trans (List.append_assoc ..)
  | timeout ms => exact hfail _
  | failed message => exact hfail _
  | aborted => exact acts_finish e entry.id rfl rfl rfl rfl ⟨[], (List.append_nil _).symm, rfl⟩

/-- The engine asks for the next signal, which may not be there yet; only with the last one the
    queue is told of the end. -/
theorem acts_takeSignal (e : Engine σ) (s : EngineState σ) :
    Acts s (s.ending?.map fun entry => .complete entry.id)
      ((s.inFlight.bind fun f => (f.handle.elapse s.now).next.1.response?).bind (e.tokenOf s.page))
      (e.takeSignal s) := by
  unfold EngineState.ending? Engine.takeSignal
  cases s.inFlight with
  | none => exact acts_idle rfl rfl rfl rfl rfl
  | some f =>
    simp only [Option.bind_some]
    rcases (f.handle.elapse s.now).next with ⟨signal | _ | _, handle⟩
    -- a stage before the last one is taken and not acted on
    · cases hlast : signal.isTerminal with
      | true =>
        simp only [Heard.isLast, hlast, if_true, Option.map_some]
        exact acts_hear e f.entry hlast _
      | false =>
        have hnone : signal.response? = none := by
          cases signal with
          | stage event => exact if_neg (ne_of_beq_false hlast)
          | _ => rfl
        simp only [Heard.isLast, Heard.response?, hlast, hnone, hear_of_stage e _ hlast]
        exact acts_idle rfl rfl rfl rfl rfl
    · exact acts_idle rfl rfl rfl rfl rfl
    · exact acts_idle rfl rfl rfl rfl rfl

/-- **What an input comes to** for the queue, the alarms, the token and what is sent: all of it is
    read off `queueCommand?` and `recorded?`. -/
theorem acts_step (e : Engine σ) (s : EngineState σ) (i : EngineInput) :
    Acts s (s.queueCommand? i) (e.recorded? i s) (e.step i s) := by
  unfold EngineState.queueCommand? Engine.recorded? EngineState.processed? Engine.step
  cases s.closed with
  | true =>
    cases i with
    | wait ms => exact acts_idle rfl rfl rfl rfl rfl
    | addOnEvent l => exact acts_idle rfl rfl rfl rfl rfl
    | addOnError l => exact acts_idle rfl rfl rfl rfl rfl
    | _ => exact acts_idle rfl rfl rfl rfl rfl
  | false =>
    cases i with
    | command c => exact acts_obey e s c
    | alarm source generation => exact acts_takeAlarm e s source generation
    | signal => exact acts_takeSignal e s
    | wait ms => exact acts_idle rfl rfl rfl rfl rfl
    | addOnEvent l => exact acts_idle rfl rfl rfl rfl rfl
    | addOnError l => exact acts_idle rfl rfl rfl rfl rfl

end

/-! ### Runs -/

namespace Engine

/-- What `g` makes of all that is collected, when `g` can be applied part by part. -/
theorem collect_hom {α β : Type} (e : Engine σ) {f : EngineInput → EngineState σ → List α}
    (g : List α → List β) (hnil : g [] = []) (happend : ∀ a b, g (a ++ b) = g a ++ g b)
    (is : List EngineInput) (s : EngineState σ) :
    g (e.collect f is s) = e.collect (fun i s => g (f i s)) is s := by
  induction is generalizing s with
  | nil => exact hnil
  | cons i is ih =>
    rw [collect, happend, ih]
    rfl

/-- What the queue is told along the run on `is`, in order. -/
def commandsIn (e : Engine σ) (is : List EngineInput) (s : EngineState σ) : List QueueCommand :=
  e.collect (fun i s => (s.queueCommand? i).toList) is s

variable (e : Engine σ) (is : List EngineInput) (s : EngineState σ)

/-- The queue after the input `i` is the queue after what it was told on `i`, which is at most one
    command. -/
theorem queue_step (i : EngineInput) :
    (e.step i s).queue = s.queue.after (s.queueCommand? i).toList := by
  rw [(acts_step e s i).queue]
  cases s.queueCommand? i <;> rfl

/-- **The queue of a run** is the queue after what it was told, so what `Queue.after` is known to do
    holds of engines. -/
theorem queue_run : (e.run is s).queue = s.queue.after (e.commandsIn is s) := by
  induction is generalizing s with
  | nil => rfl
  | cons i is ih =>
    show (e.run is (e.step i s)).queue = s.queue.after ((s.queueCommand? i).toList ++ _)
    rw [ih, queue_step, Queue.after_append]
    rfl

/-- What `f` finds along the run of the queue is found along the run of the engine, command by
    command. -/
theorem gather_commandsIn {α : Type} (f : QueueCommand → Queue → List α) :
    Queue.gather f s.queue (e.commandsIn is s) =
      e.collect (fun i s => (s.queueCommand? i).toList.flatMap fun c => f c s.queue) is s := by
  induction is generalizing s with
  | nil => rfl
  | cons i is ih =>
    have hstep : Queue.gather f s.queue (s.queueCommand? i).toList =
        (s.queueCommand? i).toList.flatMap fun c => f c s.queue := by
      cases s.queueCommand? i <;> simp [Queue.gather]
    rw [commandsIn, collect, Queue.gather_append, hstep, ← queue_step]
    exact congrArg _ (ih (e.step i s))

end Engine

/-- The queue of an engine stays in order along every run `is`. -/
theorem valid_run {e : Engine σ} {s : EngineState σ} (hvalid : s.queue.Valid)
    (is : List EngineInput) : (e.run is s).queue.Valid := by
  rw [Engine.queue_run]
  exact Queue.valid_after hvalid _

end PagePatch
