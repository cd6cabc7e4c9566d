import PagePatch.Request.Basic

namespace PagePatch

/-!
# The request queue

At most one request is in flight. The others wait in the order of their admission, and a request
with a delay is held apart until its delay has passed.

* `Queue.enqueue` — takes a request in: dispatched, waiting, or held apart;
* `Queue.release` — places a held request whose delay has passed;
* `Queue.complete` — ends the request in flight and dispatches the oldest waiting one;
* `Queue.cancelAll`, `Queue.resize` — drop waiting requests;
* `Queue.status` — what can be seen of the queue.

A bound on the number of waiting requests drops the oldest ones. Each deferral has a number of
its own, so that a timer that belongs to an older deferral is recognised as stale.
-/

/-- One request as the queue holds it, with the `delay` and the listeners that the caller asked for
    beside the request itself. -/
structure Entry where
  /-- The request that is sent when the entry comes into flight. -/
  request : Request
  /-- The delay before it is admitted, in whole milliseconds: a finer delay cannot be written down
      as a `Nat`. -/
  delay : Option Nat := none
  /-- A new bound on the number of waiting requests, set before this entry is admitted; see
      `Queue.override`. -/
  queueSize : Option Nat := none
  /-- The listeners of this request alone, told of its events besides the registered ones. -/
  callbacks : Callbacks := {}
  deriving DecidableEq, Repr

/-- The id of the request, under which `Queue.complete` ends it. -/
def Entry.id (e : Entry) : RequestId := e.request.id

/-- The element that triggered the request. Entries with a `delay` replace one another by source. -/
def Entry.source (e : Entry) : String := e.request.source

/-- An entry that is held apart until its delay has passed, and the number it was held under. -/
structure Deferral where
  /-- The number of the deferral: a timer brings it along, and `Queue.release` admits nothing under
      another one. -/
  generation : Nat
  /-- The entry that is held, its delay included. -/
  entry : Entry
  deriving DecidableEq, Repr

/-- What became of an entry that `enqueue` took in, or of one that was held until `release`. -/
inductive Admission where
  /-- The entry is in flight now and has to be sent. -/
  | dispatch (entry : Entry)
  /-- The entry waits behind the others; the listed ones, the oldest, were dropped to keep within
      the bound. -/
  | queued (evicted : List Entry)
  /-- The entry is held for `source` under the number `generation` until `delay` has passed;
      `replaced` was held for the same source until now. -/
  | deferred (source : String) (generation delay : Nat) (replaced : Option Entry)
  deriving DecidableEq, Repr

/-- The queue of the requests of one page, with the deferrals that are not admitted yet. -/
structure Queue where
  /-- The waiting entries, oldest first: `dequeue` takes the first one, and `trim` drops from the
      front. -/
  pending : List Entry := []
  /-- The id of the request in flight, if there is one. -/
  current : Option RequestId := none
  /-- The bound on the number of waiting entries; `none` lets any number wait. -/
  maxSize : Option Nat := none
  /-- The held entries under their sources, at most one for each source (`Queue.Valid.sources`). -/
  delayed : List (String × Deferral) := []
  /-- The number of the last deferral. As a `Nat` it never starts over: that a counter of 64 bits
      would, after `2 ^ 64` deferrals, is out of reach of what is stated of `lastGeneration`. -/
  lastGeneration : Nat := 0
  deriving DecidableEq, Repr

namespace Queue

/-- Drops the oldest waiting entries beyond `maxSize`, and returns them in their order. -/
def trim (q : Queue) : List Entry × Queue :=
  match q.maxSize with
  | none => ([], q)
  | some max =>
    let excess := q.pending.length - max
    (q.pending.take excess, { q with pending := q.pending.drop excess })

/-- Sets the bound to `maxSize` and returns what `trim` drops because of it. -/
def resize (q : Queue) (maxSize : Option Nat) : List Entry × Queue :=
  { q with maxSize }.trim

/-- Takes the oldest of `pending` into flight, unless a request is in flight already. -/
def dequeue (q : Queue) : Option Entry × Queue :=
  match q.current, q.pending with
  | none, e :: rest => (some e, { q with pending := rest, current := some e.id })
  | _, _ => (none, q)

/-- Admits the entry `e`: into flight when the queue is idle, else behind the waiting ones, where
    the bound may drop the oldest of them and even `e` itself. -/
def place (q : Queue) (e : Entry) : Admission × Queue :=
  if q.current.isNone && q.pending.isEmpty then
    (.dispatch e, { q with current := some e.id })
  else
    -- the entry is let in first and the bound applied afterwards, so it may be dropped at once
    let (evicted, q) := { q with pending := q.pending ++ [e] }.trim
    -- with a request in flight nothing is handed out; see `Queue.servesBacklog`
    match q.dequeue with
    | (some head, q) => (.dispatch head, q)
    | (none, q) => (.queued evicted, q)

/-- The deferral that is held for `source`, if there is one. -/
def deferral? (q : Queue) (source : String) : Option Deferral :=
  q.delayed.lookup source

/-- Holds the entry `e` apart under the next number, in place of the one that was held for its
    source. -/
def defer (q : Queue) (e : Entry) (delay : Nat) : Admission × Queue :=
  let generation := q.lastGeneration + 1
  let replaced := (q.deferral? e.source).map Deferral.entry
  (.deferred e.source generation delay replaced,
    { q with
      delayed := q.delayed.filter (·.1 ≠ e.source) ++ [(e.source, ⟨generation, e⟩)]
      lastGeneration := generation })

/-- Applies the bound `size` that an entry brings along. What the bound drops is not returned, so
    nobody is told of it. -/
def override (q : Queue) (size : Option Nat) : Queue :=
  match size with
  | none => q
  | some n => (q.resize (some n)).2

/-- Takes the entry `e` in. Its own bound is applied first; a positive delay has it held apart, and
    a delay of zero counts as none. -/
def enqueue (q : Queue) (e : Entry) : Admission × Queue :=
  let q := q.override e.queueSize
  match e.delay with
  | some (delay + 1) => q.defer e (delay + 1)
  | _ => q.place { e with delay := none }

/-- Admits the entry that is held for `source` under the number `generation`. If its deferral was
    replaced or dropped since, nothing changes. -/
def release (q : Queue) (source : String) (generation : Nat) : Option Admission × Queue :=
  match q.deferral? source with
  | none => (none, q)
  | some held =>
    if held.generation = generation then
      let (admission, q) := { q with delayed := q.delayed.filter (·.1 ≠ source) }.place
        { held.entry with delay := none }
      (some admission, q)
    else (none, q)

/-- Ends the request in flight and takes the oldest waiting entry in its place; any other `id`
    changes nothing. -/
def complete (q : Queue) (id : RequestId) : Option Entry × Queue :=
  if q.current = some id then { q with current := none }.dequeue else (none, q)

/-- Drops every entry of `pending` and `delayed` and tells how many there were. The request in
    flight goes on. -/
def cancelAll (q : Queue) : Nat × Queue :=
  (q.pending.length + q.delayed.length, { q with pending := [], delayed := [] })

end Queue

/-- What can be seen of a queue from outside, by `Queue.status`. -/
structure QueueStatus where
  /-- The request in flight. -/
  current : Option RequestId
  /-- The waiting requests, oldest first. -/
  pending : List RequestId
  /-- The number of held requests. -/
  delayed : Nat
  /-- The bound on the number of waiting requests. -/
  maxSize : Option Nat
  deriving DecidableEq, Repr

/-- Whether no request is in flight, waits or is held. A held one counts in `delayed`: it will be
    admitted yet. -/
def QueueStatus.isIdle (s : QueueStatus) : Bool :=
  s.current.isNone && s.pending.isEmpty && s.delayed == 0

/-- What can be seen of the queue: the waiting requests by their ids, the held ones by their
    number. -/
def Queue.status (q : Queue) : QueueStatus where
  current := q.current
  pending := q.pending.map Entry.id
  delayed := q.delayed.length
  maxSize := q.maxSize

end PagePatch
