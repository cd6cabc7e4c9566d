import PagePatch.Engine.Basic

namespace PagePatch

/-!
# Engines in time

Runs an engine through everything that becomes due, in the order of time.

* `EngineState.nextInput?` — what becomes due next, and when;
* `Engine.runUntil` — the state at a time, with everything done that was due by then.
-/

namespace EngineState

variable {σ : Type}

/-- The alarm of `s.alarms` that comes first; of several that are due at the same time, the one that
    was started first. -/
def firstAlarm? (s : EngineState σ) : Option Alarm :=
  s.alarms.foldl (fun first a =>
    match first with
    | some b => if a.due < b.due then some a else some b
    | none => some a) none

/-- What becomes due next in `s`, and when: the next signal of the exchange in flight, or
    `firstAlarm?`. At the same time a signal goes before an alarm. -/
def nextInput? (s : EngineState σ) : Option (Nat × EngineInput) :=
  let signal := (s.inFlight.bind (·.handle.due? s.now)).map fun t => (t, EngineInput.signal)
  let alarm := s.firstAlarm?.map fun a =>
    (max s.now a.due, EngineInput.alarm a.source a.generation)
  match signal, alarm with
  | some x, some y => if y.1 < x.1 then some y else some x
  | some x, none => some x
  | none, y => y

/-- A bound on how many inputs can become due without a further command: each request that waits or
    is held takes one exchange, and each exchange has a signal for the start, at most one for each
    of its steps and one for its end. It is the fuel of `Engine.runDue`. -/
def load (s : EngineState σ) : Nat :=
  let signals (x : Exchange) : Nat := x.steps.length + 3
  let requests := s.queue.pending.length + s.queue.delayed.length + 1
  s.alarms.length
    + (s.inFlight.map fun f => f.handle.queued.length + f.handle.upcoming.length + 1).getD 0
    + s.server.answers.foldl (fun n x => n + signals x) (requests * signals s.server.otherwise)

end EngineState

namespace Engine

variable {σ : Type}

/-- Does what is due by the time `limit`, one input after the other, up to a number of inputs. -/
def runDue (e : Engine σ) (limit : Nat) : Nat → EngineState σ → EngineState σ
  | 0, s => s
  | n + 1, s =>
    match s.nextInput? with
    | none => s
    | some (t, i) =>
      -- the clock is set to the time of the input, and then the input comes
      if limit < t then s else runDue e limit n (e.step i (e.step (.wait (t - s.now)) s))

/-- The state at the time `limit`, with everything done that was due by then. -/
def runUntil (e : Engine σ) (limit : Nat) (s : EngineState σ) : EngineState σ :=
  let s := if s.closed then s else runDue e limit s.load s
  e.step (.wait (limit - s.now)) s

/-- The state after the command `c`, with everything done that is due at once. -/
def tell (e : Engine σ) (c : EngineCommand) (s : EngineState σ) : EngineState σ :=
  e.runUntil s.now (e.step (.command c) s)

end Engine

end PagePatch
