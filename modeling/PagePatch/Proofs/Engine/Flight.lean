import PagePatch.Document.Recorder
import PagePatch.Proofs.Engine.Turn

namespace PagePatch

/-!
# The request in flight

The queue knows which request is in flight, and the engine has it. The two are changed in different
places, but they agree whenever the engine has done what an input asks of it.

* `steady_run` — an engine stays steady for as long as it is not shut down;
* `MovesOn` — the oldest waiting request is in flight;
* `movesOn_step`, `movesOn_run` — after any outcome of an exchange the engine moves on;
* `inStep_run` — the queue and the engine are in step in every state of every run.
-/

variable {σ : Type}

/-! ### Runs -/

/-- Some inputs `is` and then others `js`, as one run. -/
theorem Engine.run_append (e : Engine σ) (is js : List EngineInput) (s : EngineState σ) :
    e.run (is ++ js) s = e.run js (e.run is s) :=
  List.foldl_append

/-- An engine that was shut down keeps its queue and makes nothing known, whatever the input `i`
    is. -/
theorem step_of_closed (e : Engine σ) {s : EngineState σ} (h : s.closed = true) (i : EngineInput) :
    (e.step i s).closed = true ∧ (e.step i s).queue = s.queue ∧
      (e.step i s).history = s.history := by
  cases i <;> simp [Engine.step, h]

/-- An engine that was shut down stays so along any run `is`. -/
theorem closed_run (e : Engine σ) (is : List EngineInput) {s : EngineState σ}
    (h : s.closed = true) : (e.run is s).closed = true := by
  induction is generalizing s with
  | nil => exact h
  | cons i is ih => exact ih (step_of_closed e h i).1

/-- A `shutdown` stops a steady engine. -/
theorem closed_shutdown (e : Engine σ) {s : EngineState σ} (hs : Steady s) :
    (e.step (.command .shutdown) s).closed = true := by
  simp [Engine.step, hs.running, Engine.obey]

/-- An engine stays `Steady` along the run `is` for as long as it is not shut down. As it never
    comes up again, the end of the run tells. -/
theorem steady_run (e : Engine σ) (is : List EngineInput) {s : EngineState σ} (hs : Steady s)
    (hopen : (e.run is s).closed = false) : Steady (e.run is s) := by
  induction is generalizing s with
  | nil => exact hs
  | cons i is ih =>
    by_cases hi : i = .command .shutdown
    · subst hi
      have hclosed := closed_run e is (closed_shutdown e hs)
      exact absurd (hopen.symm.trans hclosed) Bool.false_ne_true
    · exact ih (steady_step e hs hi) hopen

/-! ### Moving on -/

/-- From `s` to `s'` the oldest waiting request has come to be the one in flight; if none waited,
    none is. -/
structure MovesOn (s s' : EngineState σ) : Prop where
  /-- The engine has its entry, with a handle of its own. -/
  flight : s'.inFlight.map (·.entry.id) = s.queue.pending.head?.map Entry.id
  /-- The queue knows of it as the current one. -/
  current : s'.queue.current = s.queue.pending.head?.map Entry.id
  /-- The others wait still, in their order. -/
  pending : s'.queue.pending = s.queue.pending.tail

/-- A `signal` before the last one leaves the request in flight, with `h`, which is left of its
    handle. -/
theorem step_of_stage (e : Engine σ) {s : EngineState σ} {f : InFlight} {signal : Signal}
    {h : Handle} (hs : Steady s) (hf : s.inFlight = some f)
    (hnext : (f.handle.elapse s.now).next = (.signal signal, h))
    (hgoes : signal.isTerminal = false) :
    e.step .signal s = { s with inFlight := some { f with handle := h } } := by
  simp only [Engine.step, hs.running, Bool.false_eq_true, if_false, Engine.takeSignal, hf, hnext,
    hear_of_stage e _ hgoes]

/-- After the last `signal`, the outcome of an exchange, the engine moves on, whichever of the
    outcomes it is. -/
theorem movesOn_step (e : Engine σ) {s : EngineState σ} {f : InFlight} {signal : Signal}
    {h : Handle} (hs : Steady s) (hf : s.inFlight = some f)
    (hnext : (f.handle.elapse s.now).next = (.signal signal, h))
    (hlast : signal.isTerminal = true) : MovesOn s (e.step .signal s) := by
  have hkept : signal ≠ .aborted := by
    -- a steady engine never hears that its exchange was given up
    rintro rfl
    exact ((hs.listens f hf).elapse s.now).next_ne_aborted h hnext
  obtain ⟨b, token, -, hturn, hpending⟩ := turn_of_outcome e hs hf hlast hkept
    (some { f with handle := h })
  have hstep : e.step .signal s =
      e.hear f.entry signal { s with inFlight := some { f with handle := h } } := by
    simp only [Engine.step, hs.running, Bool.false_eq_true, if_false, Engine.takeSignal, hf, hnext]
  have hflight : (e.step .signal s).flight.map Entry.id =
      s.queue.pending.head?.map Entry.id := by
    rw [hstep, hturn.flight]
    cases s.queue.pending.head? <;> rfl
  refine ⟨?_, ?_, hstep ▸ hpending⟩
  · rw [← hflight, EngineState.flight, Option.map_map]
    rfl
  · rw [← hflight, hstep]
    exact hturn.steady.current

/-- **No outcome is missed.** When all that is still to come of an exchange is due, and its outcome
    `last` is among it, the engine moves on as soon as it has asked for every signal. -/
theorem movesOn_run (e : Engine σ) (stages : List Signal) {last : Signal} {s : EngineState σ}
    {f : InFlight} (hs : Steady s) (hf : s.inFlight = some f)
    (hdue : ∀ m ∈ f.handle.upcoming, m.time ≤ s.now)
    (hrest : f.handle.outstanding = stages ++ [last]) (hlast : last.isTerminal = true) :
    MovesOn s (e.run (List.replicate (stages.length + 1) .signal) s) := by
  -- at every step the handle gives out one stage, and the engine stays as it is otherwise
  induction stages generalizing s f with
  | nil =>
    obtain ⟨hqueued, -⟩ := Handle.elapse_of_due hdue
    rw [hrest] at hqueued
    have hlistens := (hs.listens f hf).elapse s.now
    exact movesOn_step e hs hf (Handle.next_of_queued hlistens.phase hqueued) hlast
  | cons stage stages ih =>
    obtain ⟨hqueued, hupcoming⟩ := Handle.elapse_of_due hdue
    rw [hrest] at hqueued
    have hcourse := (hs.listens f hf).course
    rw [hrest] at hcourse
    have hgoes := hcourse.goes (List.append_ne_nil_of_right_ne_nil _ (List.cons_ne_nil _ _))
    have hnext := Handle.next_of_queued ((hs.listens f hf).elapse s.now).phase hqueued
    have hstep := step_of_stage e hs hf hnext hgoes
    have hs' : Steady (e.step .signal s) := steady_step e hs (by simp)
    rw [hstep] at hs'
    have hmoves := ih hs' rfl (by simp [hupcoming])
      (by simp [Handle.outstanding, hupcoming])
    show MovesOn s (e.run _ (e.step .signal s))
    rw [hstep]
    exact ⟨hmoves.flight, hmoves.current, hmoves.pending⟩

/-! ### In step -/

/-- The queue and the engine are in step in the state `s`, and no outcome makes a waiting request
    wait for ever. -/
structure InStep (e : Engine σ) (s : EngineState σ) : Prop where
  /-- A request is in flight for the queue exactly if it is for the engine. -/
  current_iff : ∀ id, s.queue.current = some id ↔ ∃ f, s.inFlight = some f ∧ f.entry.id = id
  /-- Without a request in flight none waits. -/
  no_backlog : s.inFlight = none → s.queue.pending = []
  /-- At no time has the handle of the request in flight nothing more to give, which
      `Engine.takeSignal` would take without moving on. -/
  never_ended : ∀ f now h, s.inFlight = some f → (f.handle.elapse now).next ≠ (.ended, h)
  /-- At no time was the request in flight given up. -/
  never_aborted : ∀ f now h, s.inFlight = some f →
    (f.handle.elapse now).next ≠ (.signal .aborted, h)
  /-- It is not done without a response, so `Engine.hear` never has to make up a failure for it. -/
  done_responds : ∀ f now event h, s.inFlight = some f →
    (f.handle.elapse now).next = (.signal (.stage event), h) → event.stage = .done →
      ∃ r, event.response? = some r
  /-- When its outcome is heard, the engine moves on. -/
  moves_on : ∀ f signal h, s.inFlight = some f →
    (f.handle.elapse s.now).next = (.signal signal, h) → signal.isTerminal = true →
      MovesOn s (e.step .signal s)
  /-- When its exchange has come to an outcome, that will be heard. -/
  outcome_heard : ∀ f stages last ms, s.inFlight = some f →
    f.handle.outstanding = stages ++ [last] → last.isTerminal = true →
      (∀ m ∈ f.handle.upcoming, m.time ≤ s.now + ms) →
        MovesOn s (e.run (.wait ms :: List.replicate (stages.length + 1) .signal) s)

/-- **In step.** In every state of every run `is`, until the engine is shut down, the queue and the
    engine agree on the request in flight, and no outcome of an exchange holds the queue up. -/
theorem inStep_run (e : Engine σ) (page : σ) (server : Server) (is : List EngineInput)
    (hopen : (e.run is (e.initial page server)).closed = false) :
    InStep e (e.run is (e.initial page server)) := by
  have hs := steady_run e is (steady_initial e page server) hopen
  -- the run is not looked at any more: all that follows holds of any steady engine
  generalize e.run is (e.initial page server) = s at hs
  have hlistens : ∀ f now, s.inFlight = some f → (f.handle.elapse now).Listens :=
    fun f now hf => (hs.listens f hf).elapse now
  refine {
    current_iff := ?_
    no_backlog := ?_
    never_ended := fun f now h hf => (hlistens f now hf).next_ne_ended h
    never_aborted := fun f now h hf => (hlistens f now hf).next_ne_aborted h
    done_responds := fun f now event h _ _ hdone => TransportEvent.response?_of_done hdone
    moves_on := fun f signal h hf hsignal hlast => movesOn_step e hs hf hsignal hlast
    outcome_heard := ?_ }
  · intro id
    rw [hs.current, EngineState.flight, Option.map_map]
    simp only [Option.map_eq_some_iff, Function.comp_apply]
  -- with nothing in flight the queue is idle, and an idle queue in order has no backlog
  · intro hidle
    apply hs.queue.idle
    rw [hs.current, EngineState.flight, hidle]
    rfl
  · intro f stages last ms hf hrest hlast hdue
    have hs' : Steady (e.step (.wait ms) s) := steady_step e hs (by simp)
    have hmoves := movesOn_run e stages hs' hf hdue hrest hlast
    exact ⟨hmoves.flight, hmoves.current, hmoves.pending⟩

/-- An engine on the document that notes what it is told, for runs on fixed inputs. -/
def Recorder.engine (parser : Parser) : Engine Recorder where
  endpoint := {
    scheme := "http", username := "", password := "", host := some (.name "localhost"),
    port := none, path := .segments ["app"], query := none, fragment := none }
  config := {}
  document := Recorder.document
  parser

/-- The state of such an engine after the inputs `is`, when every exchange breaks off. -/
def Recorder.after (parser : Parser) (is : List EngineInput) : EngineState Recorder :=
  (engine parser).run is ((engine parser).initial {} { otherwise := { ending := .panic } })

/-- The entry of a request `id` from `source` that asks for nothing but to be sent. -/
def Recorder.entry (id : RequestId) (source : String) : Entry where
  request := Request.build id (engine {}).endpoint source none {} 0

/-- The exchange of `a` breaks off, and the engine has moved on to `b` by then. -/
theorem inStep_second :
    let s := Recorder.after {} [.command (.enqueue (Recorder.entry ⟨1⟩ "a")),
      .command (.enqueue (Recorder.entry ⟨2⟩ "b")), .signal, .signal]
    s.closed = false ∧ s.queue.current = some ⟨2⟩ ∧ InStep (Recorder.engine {}) s :=
  ⟨rfl, rfl, inStep_run _ _ _ _ rfl⟩

end PagePatch
