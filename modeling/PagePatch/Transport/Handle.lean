import PagePatch.Transport.Exchange

namespace PagePatch

/-!
# Handles

A handle gives out the signals of one exchange, the last of which is its terminal signal.

* `Handle.start` — the handle of an exchange;
* `Handle.elapse` — time passes;
* `Handle.next` — the next signal;
* `Handle.abort` — gives the exchange up;
* `Handle.await` — the next signal, with time passing until it is there.
-/

/-- What a handle still has to give out. -/
inductive HandlePhase where
  /-- The signals of the exchange. -/
  | listening
  /-- The signal that the exchange was given up. -/
  | aborting
  /-- Nothing. -/
  | finished
  deriving DecidableEq, Repr

/-- A handle of one exchange. `next` gives its signals out one by one, and `abort` ends it from
    outside. -/
structure Handle where
  /-- What it still has to give out. -/
  phase : HandlePhase := .listening
  /-- The signals that are there, oldest first. -/
  queued : List Signal := [.stage { stage := .opened }]
  /-- What is still to come of the exchange, earliest first. -/
  upcoming : List Moment
  /-- The last stage reported, for each step that the exchange has taken. -/
  reported : List Stage := []
  deriving DecidableEq, Repr

/-- What asking a handle for the `next` signal comes to. -/
inductive Heard where
  /-- A signal. -/
  | signal (s : Signal)
  /-- There are no more signals. -/
  | ended
  /-- There is no signal yet. -/
  | pending
  deriving DecidableEq, Repr

namespace Handle

/-- The handle of the exchange `x` that begins at the time `now`. That it has begun is there at
    once. -/
def start (x : Exchange) (kind : TransportKind) (deadline now : Nat) : Handle where
  upcoming := x.moments kind deadline now

/-- Whether the last signal of the exchange was given out. -/
def isFinished (h : Handle) : Bool :=
  h.phase == .finished

/-- Time passes: what happens up to the time `now` has happened. -/
def elapse (h : Handle) (now : Nat) : Handle :=
  let past := h.upcoming.takeWhile (·.time ≤ now)
  { h with
    queued := h.queued ++ past.flatMap Moment.signals
    upcoming := h.upcoming.dropWhile (·.time ≤ now)
    reported := h.reported ++ past.filterMap Moment.stage }

/-- The next signal that is there. Behind the last one the handle is `finished`: there are no more,
    whatever is still in `queued`. -/
def next (h : Handle) : Heard × Handle :=
  match h.phase, h.queued with
  | .finished, _ => (.ended, h)
  | .aborting, _ => (.signal .aborted, { h with phase := .finished })
  | .listening, [] => (.pending, h)
  | .listening, s :: rest =>
    (.signal s, { h with queued := rest, phase := if s.isTerminal then .finished else .listening })

/-- Gives the exchange up, unless its last signal was given out. What is `queued` and what is
    `upcoming` is dropped, and the next signal is `aborted`. -/
def abort (h : Handle) : Handle :=
  if h.phase = .listening then { h with phase := .aborting, queued := [], upcoming := [] } else h

/-- The time at which a signal is there, not before `now`; none if there never is one. -/
def due? (h : Handle) (now : Nat) : Option Nat :=
  match h.phase, h.queued with
  | .listening, [] => (h.upcoming.find? (!·.signals.isEmpty)).map (max now ·.time)
  | _, _ => some now

/-- The next signal, with time passing from `now` on until it is there, but no longer than
    `patience`. Also tells the time afterwards. -/
def await (h : Handle) (now patience : Nat) : Heard × Handle × Nat :=
  match h.due? now with
  | some t =>
    if t ≤ now + patience then
      -- a signal that is there already is given out without time passing
      let h := if h.phase = .listening && h.queued.isEmpty then h.elapse t else h
      let (heard, h) := h.next
      (heard, h, t)
    else (.pending, h.elapse (now + patience), now + patience)
  | none => (.pending, h.elapse (now + patience), now + patience)

end Handle

end PagePatch
