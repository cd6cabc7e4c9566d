import PagePatch.Error
import PagePatch.Transport.Signal

namespace PagePatch

/-!
# Exchanges

* `Reporter` — turns reports about an exchange into signals that never go back a stage;
* `Exchange` — the course of an exchange: its reports, pauses and ending;
* `Exchange.moments` — what is heard of it, and when.
-/

/-- How much is heard of an exchange while it runs; a `Reporter` drops what is not. -/
inductive TransportKind where
  /-- Every stage. -/
  | streaming
  /-- The start and the end alone. -/
  | buffered
  deriving DecidableEq, Repr

/-! ### Reports -/

/-- What reports about one exchange have come to so far. With `last` it sees to it that no stage is
    heard behind a later one. -/
structure Reporter where
  /-- How much is heard of the exchange. -/
  kind : TransportKind
  /-- The last stage reported. -/
  last : Stage := .opened
  /-- The last status code reported. -/
  status : Option Nat := none
  deriving DecidableEq, Repr

namespace Reporter

/-- Goes on to the stage of the event `e`; a buffered exchange keeps the event to itself. -/
def report (r : Reporter) (e : TransportEvent) : Reporter × List Signal :=
  ({ r with last := e.stage }, if r.kind = .buffered then [] else [.stage e])

/-- The status code came in. The last one is remembered in `status`, but only the first report is
    heard, and none behind a part of the body. -/
def headersReceived (r : Reporter) (status : Nat) : Reporter × List Signal :=
  let r := { r with status := some status }
  if Stage.headersReceived.rank ≤ r.last.rank then (r, [])
  else r.report { stage := .headersReceived, status := some status }

/-- A part of the body came in, which is heard each time until the response is complete. A
    `progress` of more than a hundred percent counts as a hundred. -/
def loading (r : Reporter) (progress : Option Nat) : Reporter × List Signal :=
  if Stage.loading.rank < r.last.rank then (r, [])
  else r.report { stage := .loading, status := r.status, progress := progress.map (min · 100) }

end Reporter

/-! ### The course of an exchange -/

/-- A step of an exchange, in which something comes in or time passes. The `Reporter` makes signals
    of the first two kinds. -/
inductive ExchangeStep where
  /-- The status code comes in. -/
  | headers (status : Nat)
  /-- A part of the body comes in. -/
  | loading (progress : Option Nat)
  /-- Time passes. -/
  | pause (ms : Nat)
  deriving DecidableEq, Repr

/-- How an exchange ends, if it does. `ExchangeEnding.signal?` is what is heard of it. -/
inductive ExchangeEnding where
  /-- With a response. -/
  | respond (r : Response)
  /-- With a failure. -/
  | fail (e : Error)
  /-- It breaks off without a word. -/
  | panic
  /-- Never. -/
  | hang
  deriving DecidableEq, Repr

/-- The signal of an ending, which is the last one of the exchange; `none` for one that never
    ends. -/
def ExchangeEnding.signal? : ExchangeEnding → Option Signal
  | respond r => some (.stage (.done r))
  | fail e => some (.failed e.message)
  | panic => some (.failed "transport task ended unexpectedly")
  | hang => none

/-- The course of an exchange, as it would go without a deadline. `Exchange.moments` puts the
    deadline in. -/
structure Exchange where
  /-- Its steps, in their order. -/
  steps : List ExchangeStep := []
  /-- How long it takes from the last step to the ending, in milliseconds. -/
  after : Nat := 0
  /-- How it ends. -/
  ending : ExchangeEnding
  deriving DecidableEq, Repr

/-- A moment at which something happens in an exchange, and the `signals` that are heard of it. -/
structure Moment where
  /-- When, in milliseconds. -/
  time : Nat
  /-- The last stage reported, if the exchange takes a step. -/
  stage : Option Stage := none
  /-- What is heard. -/
  signals : List Signal := []
  deriving DecidableEq, Repr

namespace Exchange

/-- The moments of steps, one for each of them, and the time behind them. The `Reporter` is handed
    on from step to step. -/
def stepMoments (r : Reporter) (now : Nat) : List ExchangeStep → List Moment × Nat
  | [] => ([], now)
  | step :: rest =>
    let (now, r, signals) :=
      match step with
      | .headers status => (now, r.headersReceived status)
      | .loading progress => (now, r.loading progress)
      | .pause ms => (now + ms, r, [])
    let (moments, last) := stepMoments r now rest
    (⟨now, some r.last, signals⟩ :: moments, last)

/-- What happens in an exchange that begins at `start` and has no deadline: the moments of its
    steps, and its ending if it has one. -/
def course (x : Exchange) (kind : TransportKind) (start : Nat) : List Moment × Option Moment :=
  let (moments, last) := stepMoments { kind } start x.steps
  (moments, x.ending.signal?.map fun s => { time := last + x.after, signals := [s] })

/-- What happens in an exchange that begins at `start`. A deadline of zero is none; an ending at the
    deadline itself still comes in time. -/
def moments (x : Exchange) (kind : TransportKind) (deadline start : Nat) : List Moment :=
  let (steps, ending) := x.course kind start
  let limit := start + deadline
  if deadline = 0 || ending.any (·.time ≤ limit) then steps ++ ending.toList
  -- the steps behind the deadline are not taken
  else steps.filter (·.time ≤ limit) ++ [{ time := limit, signals := [.timeout deadline] }]

end Exchange

end PagePatch
