import PagePatch.Event

namespace PagePatch

/-!
# Listeners

Events go to the listener of their request first and then to the page-wide listeners.

* `Behaviour`, `Listener` — what a listener does when called, and its name with that;
* `Listeners` — the page-wide listeners, in registration order;
* `Listeners.addEvent`, `Listeners.addError` — register one more;
* `Behaviour.run` — what a call of a listener does to the page-wide ones;
* `Listeners.callAll` — listeners are called one after another;
* `Listeners.sendEvent`, `Listeners.sendError` — who is called, in which order, and the
  listeners registered afterwards.

A listener that fails is contained: the others are called all the same. A listener may register
other page-wide ones; each send decides on its own when it looks at the registered ones.
-/

/-- What listeners are told about. Each is registered for one of the two, and `Notice.topic` picks
    the one that a notice is of. -/
inductive Topic where
  /-- The stages that requests reach. -/
  | stages
  /-- The failures of requests. -/
  | failures
  deriving DecidableEq, Repr

/-- The topic of a notice, which decides who is told. -/
def Notice.topic : Notice → Topic
  | event _ => .stages
  | error _ => .failures

/-- What a listener does when it is called, beyond being called. `Behaviour.run` gives the effect on
    the page-wide listeners. -/
inductive Behaviour where
  /-- Nothing else. -/
  | record
  /-- It fails, which nobody else notices. -/
  | panic
  /-- It registers one more page-wide listener, which is known by a name and does what it does
      (`further`), and goes on (`next`). -/
  | register (topic : Topic) (name : String) (further next : Behaviour)
  deriving DecidableEq, Repr

/-- A listener. Its `name` stands in every `Call` of it. -/
structure Listener where
  /-- What it is known by. -/
  name : String
  /-- What it does. -/
  behaviour : Behaviour := .record
  deriving DecidableEq, Repr

/-- The listeners of one request, one for each `Topic` at most. They are called in front of the
    page-wide ones. -/
structure Callbacks where
  /-- Told about stages. -/
  onEvent : Option Listener := none
  /-- Told about failures. -/
  onError : Option Listener := none
  deriving DecidableEq, Repr

/-- One call of the listener named `listener`, and the `notice` it was given. -/
structure Call where
  /-- Who was called. -/
  listener : String
  /-- With what. -/
  notice : Notice
  deriving DecidableEq, Repr

/-- The page-wide listeners of both topics, in the order of registration. None is ever taken
    back. -/
structure Listeners where
  /-- Told about stages. -/
  events : List Listener := []
  /-- Told about failures. -/
  errors : List Listener := []
  deriving DecidableEq, Repr

namespace Listeners

/-- Registers the page-wide listener `l` of stages, behind the others. -/
def addEvent (r : Listeners) (l : Listener) : Listeners :=
  { r with events := r.events ++ [l] }

/-- Registers the page-wide listener `l` of failures, behind the others. -/
def addError (r : Listeners) (l : Listener) : Listeners :=
  { r with errors := r.errors ++ [l] }

/-- Registers a page-wide listener for a topic: by `addEvent` or by `addError`, always behind those
    that are there. -/
def add (r : Listeners) : Topic → Listener → Listeners
  | .stages => r.addEvent
  | .failures => r.addError

end Listeners

/-- What a call of a listener does to the page-wide ones, and whether it comes to its end. What it
    registered before a `panic` stays. -/
def Behaviour.run : Behaviour → Listeners → Bool × Listeners
  | record, r => (true, r)
  | panic, r => (false, r)
  | register topic name further next, r => next.run (r.add topic { name, behaviour := further })

namespace Listeners

/-- Calls listeners one after another, whether or not `Behaviour.run` comes to its end, and hands on
    what each of them registers. The list itself is fixed when the calls begin. -/
def callAll (r : Listeners) (n : Notice) : List Listener → List Call × Listeners
  | [] => ([], r)
  | l :: rest =>
    let (_, r) := l.behaviour.run r
    let (calls, r) := r.callAll n rest
    (⟨l.name, n⟩ :: calls, r)

/-- Sends the stage `e`: the listener of the request, then every page-wide one that is registered
    when `callbacks.onEvent` was called. -/
def sendEvent (r : Listeners) (callbacks : Callbacks) (e : LifecycleEvent) :
    List Call × Listeners :=
  let (own, r) := r.callAll (.event e) callbacks.onEvent.toList
  -- this `r` has what the listener of the request has just registered
  let (others, r) := r.callAll (.event e) r.events
  (own ++ others, r)

/-- Sends the failure `e`: the listener of the request, then every page-wide one that was registered
    before, whatever `callbacks.onError` registers. Without a listener there is nothing to do. -/
def sendError (r : Listeners) (callbacks : Callbacks) (e : ErrorEvent) :
    List Call × Listeners :=
  let present := r.errors
  if callbacks.onError.isNone && present.isEmpty then ([], r)
  else
    let (own, r) := r.callAll (.error e) callbacks.onError.toList
    let (others, r) := r.callAll (.error e) present
    (own ++ others, r)

/-- Sends a notice of either topic, by `sendEvent` or by `sendError`. -/
def send (r : Listeners) (callbacks : Callbacks) : Notice → List Call × Listeners
  | .event e => r.sendEvent callbacks e
  | .error e => r.sendError callbacks e

end Listeners

end PagePatch
