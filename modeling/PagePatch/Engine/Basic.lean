import PagePatch.Engine.Config
import PagePatch.Engine.Process
import PagePatch.Queue
import PagePatch.Transport.Handle

namespace PagePatch

/-!
# The engine

The engine sends one request at a time and applies the responses to its page.

* `Engine` — what stays the same while it runs, and `EngineState` — what changes;
* `EngineInput` — what can happen: a command, a new listener, an alarm, a signal of the exchange in
  flight, time;
* `Engine.step` — what the engine makes of it.

Alarms and signals may come late and in any order: an alarm of a deferral that is gone is stale and
changes nothing.
-/

/-- What an engine made known, in its `history`: to the listeners, to the server, or to whoever gave
    a command. -/
inductive Output where
  /-- A notice that was sent to the listeners, and the calls that they got with it. -/
  | raised (notice : Notice) (calls : List Call)
  /-- A request whose exchange started, as it was given to the server. -/
  | sent (r : Request)
  /-- What came of a response that was handed in by a command. -/
  | replied (s : Summary)
  /-- What was to be seen of the queue when a command asked for it. -/
  | status (s : QueueStatus)
  deriving DecidableEq, Repr

/-- The request in flight. There is one at most, as `Queue.dequeue` takes none while `current` is
    set. -/
structure InFlight where
  /-- The request as it was sent, its view-state token included. -/
  entry : Entry
  /-- The handle of its exchange, from which the engine takes the signals. -/
  handle : Handle
  deriving DecidableEq, Repr

/-- An alarm for the end of a delay, which `Engine.takeAlarm` hears. It comes even if its deferral
    is gone by then, and is stale in that case. -/
structure Alarm where
  /-- The source of the request that is held. -/
  source : String
  /-- The number of its deferral, under which `Queue.release` admits the request. -/
  generation : Nat
  /-- When the delay ends, in the time of `EngineState.now`. -/
  due : Nat
  deriving DecidableEq, Repr

/-- How the exchanges of an engine will go, which stands for the server and the network: those in
    `answers` first, and `otherwise` from then on. -/
structure Server where
  /-- The next ones, in the order in which they start. -/
  answers : List Exchange := []
  /-- Those after the `answers`. -/
  otherwise : Exchange
  deriving DecidableEq, Repr

/-- How the next exchange will go, and what is left of `s` after it. A server without `answers`
    gives `otherwise` and stays as it is. -/
def Server.take (s : Server) : Exchange × Server :=
  match s.answers with
  | [] => (s.otherwise, s)
  | x :: rest => (x, { s with answers := rest })

/-- What stays the same while an engine runs; `σ` are the states of its page. -/
structure Engine (σ : Type) where
  /-- Where requests are sent, as `EngineConfig.validate` found it. -/
  endpoint : Url
  /-- The settings. -/
  config : EngineConfig
  /-- What the page makes of the instructions that responses lead to. -/
  document : Document σ
  /-- What reads responses. -/
  parser : Parser

/-- What changes while an engine runs: `Engine.step` maps a state and an input to the next state.
    The page in `σ` is changed by responses alone. -/
structure EngineState (σ : Type) where
  /-- The page. -/
  page : σ
  /-- The time, in whole milliseconds since the engine was started. -/
  now : Nat := 0
  /-- The page-wide listeners, which hear of every request. -/
  listeners : Listeners := {}
  /-- The requests that wait or are held, and the id of the one in flight. -/
  queue : Queue := {}
  /-- The view-state token that the next request is given, if a response brought one or the settings
      have one. -/
  viewState : Option String := none
  /-- The request in flight with its handle. The queue has its id as `Queue.current`. -/
  inFlight : Option InFlight := none
  /-- The deferrals that have an alarm, by source and number. An alarm that is gone from here is
      stale. -/
  timers : List (String × Nat) := []
  /-- The alarms that have not come yet, whether or not their deferral is still there. -/
  alarms : List Alarm := []
  /-- How exchanges will go. -/
  server : Server
  /-- Whether the engine was shut down. -/
  closed : Bool := false
  /-- What the engine made known, in order. -/
  history : List Output := []

/-- What an engine can be told to do from outside. `Engine.obey` says what comes of each. -/
inductive EngineCommand where
  /-- Take the request of an entry in; see `Engine.issue`. -/
  | enqueue (entry : Entry)
  /-- Process the response `r` that did not come from an exchange, as the one that `ctx` waits
      for. -/
  | respond (r : Response) (ctx : ResponseContext)
  /-- Drop the requests that wait or are held. -/
  | cancelAll
  /-- Bound the number of requests that wait. -/
  | resize (maxSize : Option Nat)
  /-- Tell what is to be seen of the queue. -/
  | status
  /-- Stop for good. -/
  | shutdown
  deriving DecidableEq, Repr

/-- What can happen to an engine: a command, a new listener, an alarm, a signal or time. The inputs
    may come in any order, and at any time; `Engine.step` says what comes of each. -/
inductive EngineInput where
  /-- It is told something. -/
  | command (c : EngineCommand)
  /-- A page-wide listener of stages is registered. -/
  | addOnEvent (l : Listener)
  /-- A page-wide listener of failures is registered. -/
  | addOnError (l : Listener)
  /-- The delay of the deferral of `source` under the number `generation` has ended. -/
  | alarm (source : String) (generation : Nat)
  /-- The exchange in flight may have a signal, which is taken if it is there by now. -/
  | signal
  /-- Time passes. -/
  | wait (ms : Nat)
  deriving DecidableEq, Repr

namespace EngineState

variable {σ : Type}

/-- Adds `o` to what was made known. -/
def emit (s : EngineState σ) (o : Output) : EngineState σ :=
  { s with history := s.history ++ [o] }

/-- Tells the listeners of the notice `n`: the page-wide ones, and the `callbacks` of the
    request. -/
def raise (s : EngineState σ) (callbacks : Callbacks) (n : Notice) : EngineState σ :=
  let (calls, listeners) := s.listeners.send callbacks n
  { s with listeners }.emit (.raised n calls)

/-- Remembers the token `summary.viewState` that a response brought. Without a new one the engine
    keeps the one it has. -/
def record (s : EngineState σ) (summary : Summary) : EngineState σ :=
  { s with viewState := summary.viewState.or s.viewState }

/-- Starts the alarm of a deferral. In `timers` it takes the place of an earlier one of its source,
    whose alarm comes all the same. -/
def startTimer (s : EngineState σ) (source : String) (generation delay : Nat) : EngineState σ :=
  { s with
    timers := s.timers.filter (·.1 ≠ source) ++ [(source, generation)]
    alarms := s.alarms ++ [{ source, generation, due := s.now + delay }] }

end EngineState

namespace Engine

variable {σ : Type}

/-- What reads responses and applies their changes, with the reserved ids of `e.config`. -/
def processor (e : Engine σ) : Processor where
  parser := e.parser
  reserved := e.config.reserved

/-- Sends the request of `entry`, which the queue has put in flight. It is given the token unless it
    has one, and the listeners are told of its begin before its exchange starts. -/
def dispatch (e : Engine σ) (entry : Entry) (s : EngineState σ) : EngineState σ :=
  let entry := { entry with request := entry.request.withViewState s.viewState }
  let s := s.raise entry.callbacks
    (.event { status := .begin, source := entry.source, request := entry.id })
  -- the deadline counts from here on, not from when the request was taken in
  let (x, server) := s.server.take
  let handle := Handle.start x e.config.transport entry.request.timeout s.now
  { s with server, inFlight := some { entry, handle } }.emit (.sent entry.request)

/-- Acts on the `Admission` of an entry: one to `dispatch` is sent, and for one that is held an
    alarm is started. An entry that waits needs nothing further. -/
def settleAdmission (e : Engine σ) (a : Admission) (s : EngineState σ) : EngineState σ :=
  match a with
  | .dispatch entry => e.dispatch entry s
  | .queued _ => s
  | .deferred source generation delay _ => s.startTimer source generation delay

/-- Processes the response `r` and remembers the token that it brought. -/
def process (e : Engine σ) (ctx : ResponseContext) (r : Response) (s : EngineState σ) :
    Summary × EngineState σ :=
  let p := e.processor.process e.document s.listeners ctx r s.page
  (p.summary,
    { s with
      page := p.page
      listeners := p.listeners
      history := s.history ++
        p.raised.map fun (n, calls) => Output.raised n calls }.record p.summary)

/-- Ends the request called `id` for the queue, and sends the next one if there is one. -/
def finish (e : Engine σ) (id : RequestId) (s : EngineState σ) : EngineState σ :=
  let (next, queue) := s.queue.complete id
  let s := { s with queue }
  match next with
  | some entry => e.dispatch entry s
  | none => s

/-- The response `r` to the request `entry` is there: the listeners are told of the stage
    `complete`, `process` reads the response, and `finish` moves the queue on. -/
def complete (e : Engine σ) (entry : Entry) (r : Response) (s : EngineState σ) : EngineState σ :=
  let ctx : ResponseContext :=
    { source := entry.source, request := entry.id, callbacks := entry.callbacks }
  let s := s.raise ctx.callbacks (.event {
    status := .complete
    source := ctx.source
    request := ctx.request
    response := some (r.status, r.body) })
  e.finish entry.id (e.process ctx r s).2

/-- No response to the request `entry` will come: the listeners are told why, as an `httpError` with
    the given description, and `finish` moves the queue on. -/
def fail (e : Engine σ) (entry : Entry) (description : String) (s : EngineState σ) :
    EngineState σ :=
  e.finish entry.id (s.raise entry.callbacks (.error {
    kind := .httpError
    description
    source := entry.source
    request := entry.id }))

/-- Acts on a signal of the exchange in flight. Only a signal that `isTerminal` ends the request;
    there is a response exactly when the stage is `done`. -/
def hear (e : Engine σ) (entry : Entry) (signal : Signal) (s : EngineState σ) : EngineState σ :=
  -- the request is in flight no longer before its response is processed
  let ended := { s with inFlight := none }
  match signal with
  | .stage event =>
    if event.stage = .done then
      match event.response? with
      | some r => e.complete entry r ended
      | none => e.fail entry (Error.transport "done without a response").message ended
    else s
  | .timeout ms => e.fail entry (Error.requestTimeout entry.id ms).message ended
  | .failed message => e.fail entry message ended
  | .aborted => e.finish entry.id ended

/-- Takes the next signal of the exchange in flight from its `Handle`, if there is one by
    `s.now`. -/
def takeSignal (e : Engine σ) (s : EngineState σ) : EngineState σ :=
  match s.inFlight with
  | none => s
  | some flight =>
    let (heard, handle) := (flight.handle.elapse s.now).next
    match heard with
    | .signal signal =>
      e.hear flight.entry signal { s with inFlight := some { flight with handle } }
    | .ended => { s with inFlight := none }
    | .pending => { s with inFlight := some { flight with handle } }

/-- The delay of the deferral `generation` of `source` has ended. `Queue.release` decides whether it
    is the one that is held; if not, the alarm is stale, and nothing but the alarm is gone. -/
def takeAlarm (e : Engine σ) (source : String) (generation : Nat) (s : EngineState σ) :
    EngineState σ :=
  let (admission, queue) := s.queue.release source generation
  -- the alarm is used up, whether or not it finds its deferral
  let s := { s with
    queue
    timers := s.timers.filter (· ≠ (source, generation))
    alarms := s.alarms.filter fun a => (a.source, a.generation) ≠ (source, generation) }
  match admission with
  | some a => e.settleAdmission a s
  | none => s

/-- Acts on the command `c`. -/
def obey (e : Engine σ) (c : EngineCommand) (s : EngineState σ) : EngineState σ :=
  match c with
  | .enqueue entry =>
    let (admission, queue) := s.queue.enqueue entry
    e.settleAdmission admission { s with queue }
  | .respond r ctx =>
    let (summary, s) := e.process ctx r s
    s.emit (.replied summary)
  | .cancelAll => { s with queue := s.queue.cancelAll.2, timers := [] }
  | .resize maxSize => { s with queue := (s.queue.resize maxSize).2 }
  | .status => s.emit (.status s.queue.status)
  | .shutdown =>
    { s with queue := s.queue.cancelAll.2, timers := [], inFlight := none, closed := true }

/-- What the engine makes of the input `i`. An engine that was shut down takes no notice of
    commands, alarms and signals. -/
def step (e : Engine σ) (i : EngineInput) (s : EngineState σ) : EngineState σ :=
  match i with
  | .wait ms => { s with now := s.now + ms }
  | .addOnEvent l => { s with listeners := s.listeners.addEvent l }
  | .addOnError l => { s with listeners := s.listeners.addError l }
  | .command c => if s.closed then s else e.obey c s
  | .alarm source generation => if s.closed then s else e.takeAlarm source generation s
  | .signal => if s.closed then s else e.takeSignal s

/-- What the engine makes of the inputs `is`, one after the other. -/
def run (e : Engine σ) (is : List EngineInput) (s : EngineState σ) : EngineState σ :=
  is.foldl (fun s i => e.step i s) s

/-! ### The ways in -/

/-- The state of a new engine: `config.queueSize` bounds its queue, and its first token is the one
    of the settings. -/
def initial (e : Engine σ) (page : σ) (server : Server) : EngineState σ where
  page
  server
  queue := { maxSize := e.config.queueSize }
  viewState := e.config.viewState

/-- The entry of a request that a caller asks for. An empty `source` is refused as an invalid
    argument, and so is everything after the shutdown. -/
def issue (e : Engine σ) (s : EngineState σ) (id : RequestId) (source : String)
    (event : Option String) (options : RequestOptions) : Except Error Entry :=
  if source = "" then .error (.invalidArgument "request source must not be empty")
  else if s.closed then .error .engineClosed
  else
    .ok {
      request := Request.build id e.endpoint source event options e.config.timeout
      delay := options.delay
      queueSize := options.queueSize
      callbacks := options.callbacks }

end Engine

end PagePatch
