import PagePatch.Listener

namespace PagePatch

/-!
# Calls of listeners

A send calls the listener of the request and then the page-wide listeners of its topic, in the order
in which they were registered and each once, whoever of them fails. What listeners register while
they are called stands behind the others, and is called from the next send of its topic on. There is
one exception: a send of a stage looks at the page-wide listeners behind the call of the listener of
the request, so it also calls those that this one has just registered.

* `Behaviour.registered` — what a call of a listener registers for a topic;
* `Listeners.callAll_append`, `Listeners.fst_callAll`, `Listeners.of_callAll` — what comes of
  calling listeners in a row;
* `Dispatch`, `Dispatch.due`, `Dispatch.early` — what is sent, who is due to be called for it, and
  who is called too early;
* `Listeners.send_eq`, `Listeners.of_after` — one send, and what is registered behind many;
* `Listeners.lawful_iff` — when a send calls those who are due and nobody else;
* `Listeners.announces_after` — the calls of any number of sends.
-/

/-! ### Registering -/

/-- What a call of a listener with this behaviour registers for the topic `t`, in order: what comes
    before it fails. -/
def Behaviour.registered (t : Topic) : Behaviour → List Listener
  | record | panic => []
  | register topic name further next =>
    (if topic = t then [{ name, behaviour := further }] else []) ++ next.registered t

/-- What a call of the listener `l` registers for the topic `t`. -/
def Listener.registered (t : Topic) (l : Listener) : List Listener :=
  l.behaviour.registered t

namespace Listeners

/-- The page-wide listeners of a topic in `r`, in the order of their registration. -/
def of (r : Listeners) : Topic → List Listener
  | .stages => r.events
  | .failures => r.errors

theorem of_add (r : Listeners) (t t' : Topic) (l : Listener) :
    (r.add t l).of t' = r.of t' ++ if t = t' then [l] else [] := by
  cases t <;> cases t' <;> simp [add, addEvent, addError, of]

/-- A call of a listener with the behaviour `b` adds what it registers behind the others, whether or
    not it fails. -/
theorem of_run (b : Behaviour) (r : Listeners) (t : Topic) :
    (b.run r).2.of t = r.of t ++ b.registered t := by
  induction b generalizing r with
  | record | panic => exact (List.append_nil _).symm
  | register topic name further next _ ih =>
    rw [Behaviour.run, ih, of_add, Behaviour.registered, List.append_assoc]

/-! ### Calling -/

/-- Calling some listeners `ls` and then others `ls'` is calling them in a row. -/
theorem callAll_append (r : Listeners) (n : Notice) (ls ls' : List Listener) :
    r.callAll n (ls ++ ls') =
      ((r.callAll n ls).1 ++ ((r.callAll n ls).2.callAll n ls').1,
        ((r.callAll n ls).2.callAll n ls').2) := by
  induction ls generalizing r with
  | nil => rfl
  | cons l rest ih =>
    have hrest := ih (l.behaviour.run r).2
    rw [List.cons_append]
    show (_ :: (callAll _ n (rest ++ ls')).1, (callAll _ n (rest ++ ls')).2) = _
    rw [hrest]
    rfl

/-- Every one of the listeners `ls` is called once, in order, whoever of them fails. -/
theorem fst_callAll (r : Listeners) (n : Notice) (ls : List Listener) :
    (r.callAll n ls).1 = ls.map fun l => ⟨l.name, n⟩ := by
  induction ls generalizing r with
  | nil => rfl
  | cons l rest ih => exact congrArg (_ :: ·) (ih _)

/-- What each of the listeners `ls` registers stands behind what those before it registered. -/
theorem of_callAll (r : Listeners) (n : Notice) (ls : List Listener) (t : Topic) :
    (r.callAll n ls).2.of t = r.of t ++ ls.flatMap (Listener.registered t) := by
  induction ls generalizing r with
  | nil => exact (List.append_nil _).symm
  | cons l rest ih =>
    show ((l.behaviour.run r).2.callAll n rest).2.of t = _
    rw [ih, of_run, List.append_assoc]
    rfl

end Listeners

/-! ### Sending -/

/-- The listener in `c` of a request for the topic, if there is one. -/
def Callbacks.of (c : Callbacks) : Topic → List Listener
  | .stages => c.onEvent.toList
  | .failures => c.onError.toList

/-- Something that is sent: a `notice`, with the listeners of the request that it is about. -/
structure Dispatch where
  /-- The listeners of the request. -/
  callbacks : Callbacks
  /-- The notice. -/
  notice : Notice

namespace Dispatch

/-- What is sent by `d` is about the topic of its notice. -/
def topic (d : Dispatch) : Topic :=
  d.notice.topic

/-- The listener of the request of `d` for the topic, if there is one. -/
def own (d : Dispatch) : List Listener :=
  d.callbacks.of d.topic

/-- Who is due to be called for `d`: the listener of the request, its `own`, and the page-wide
    listeners of the topic that are registered before the send. -/
def due (d : Dispatch) (r : Listeners) : List Listener :=
  d.own ++ r.of d.topic

/-- Who is called for a stage without being due: what the listener of the request of `d` registers
    for stages while it is called. -/
def early (d : Dispatch) : List Listener :=
  match d.topic with
  | .stages => d.own.flatMap (Listener.registered .stages)
  | .failures => []

/-- The calls of the listeners `ls` for what is sent. -/
def callsOf (d : Dispatch) (ls : List Listener) : List Call :=
  ls.map fun l => ⟨l.name, d.notice⟩

end Dispatch

namespace Listeners

/-- The calls that the send of `d` makes. -/
def calls (r : Listeners) (d : Dispatch) : List Call :=
  (r.send d.callbacks d.notice).1

/-- The page-wide listeners behind the send of `d`. -/
def next (r : Listeners) (d : Dispatch) : Listeners :=
  (r.send d.callbacks d.notice).2

/-- The page-wide listeners behind the sends `ds`, made one after another. -/
def after (r : Listeners) (ds : List Dispatch) : Listeners :=
  ds.foldl next r

theorem after_append (r : Listeners) (ds ds' : List Dispatch) :
    r.after (ds ++ ds') = (r.after ds).after ds' :=
  List.foldl_append

/-- Who is called for `d`: those who are `due`, and then those who are called `early`. -/
def called (r : Listeners) (d : Dispatch) : List Listener :=
  d.due r ++ d.early

/-- A send calls the listeners in `called`, that are due and those that are called early, in a
    row. -/
theorem send_eq (r : Listeners) (d : Dispatch) :
    r.send d.callbacks d.notice = r.callAll d.notice (r.called d) := by
  obtain ⟨callbacks, notice⟩ := d
  cases notice with
  | event e =>
    -- the page-wide listeners are looked at behind the call of the listener of the request
    have hseen : (r.callAll (.event e) callbacks.onEvent.toList).2.events =
        r.events ++ callbacks.onEvent.toList.flatMap (Listener.registered .stages) :=
      of_callAll r (.event e) callbacks.onEvent.toList .stages
    have hcalled : r.called ⟨callbacks, .event e⟩ = callbacks.onEvent.toList ++
        (r.callAll (.event e) callbacks.onEvent.toList).2.events := by
      rw [hseen, ← List.append_assoc]
      rfl
    rw [hcalled, callAll_append]
    rfl
  | error e =>
    have hcalled : r.called ⟨callbacks, .error e⟩ = callbacks.onError.toList ++ r.errors :=
      List.append_nil _
    rw [hcalled]
    show r.sendError callbacks e = _
    rw [sendError]
    split
    · -- without a listener there is nobody to call
      rename_i hnobody
      obtain ⟨hown, hpresent⟩ := Bool.and_eq_true_iff.mp hnobody
      rw [Option.isNone_iff_eq_none.mp hown, List.isEmpty_iff.mp hpresent]
      rfl
    · rw [callAll_append]

theorem calls_eq (r : Listeners) (d : Dispatch) : r.calls d = d.callsOf (r.called d) := by
  rw [calls, send_eq, fst_callAll]
  rfl

/-- What the listeners that are `called` for `d` register stands behind the page-wide listeners that
    there were. -/
theorem of_next (r : Listeners) (d : Dispatch) (t : Topic) :
    (r.next d).of t = r.of t ++ (r.called d).flatMap (Listener.registered t) := by
  rw [next, send_eq, of_callAll]

/-! ### Sending on and on -/

/-- What is registered for the topic `t` while the sends are made, in order. -/
def registeredIn (t : Topic) (r : Listeners) : List Dispatch → List Listener
  | [] => []
  | d :: ds => (r.called d).flatMap (Listener.registered t) ++ (r.next d).registeredIn t ds

/-- The page-wide listeners stay, in order, and those that are registered in the sends `ds` join
    behind them. -/
theorem of_after (t : Topic) (r : Listeners) (ds : List Dispatch) :
    (r.after ds).of t = r.of t ++ r.registeredIn t ds := by
  induction ds generalizing r with
  | nil => exact (List.append_nil _).symm
  | cons d ds ih =>
    show ((r.next d).after ds).of t = _
    rw [ih, of_next, List.append_assoc]
    rfl

/-- The rule of calling for the send of `d`: the listener of the request, then the page-wide
    listeners that are registered before it, and nobody else. -/
def Lawful (r : Listeners) (d : Dispatch) : Prop :=
  r.calls d = d.callsOf (d.due r)

end Listeners

/-- Nobody is called `early` for a failure, nor for a stage unless the listener of the request
    registers a listener of stages. -/
theorem Dispatch.early_eq_nil_iff (d : Dispatch) :
    d.early = [] ↔ (d.topic = .stages → ∀ l ∈ d.own, l.registered .stages = []) := by
  rw [early]
  cases d.topic with
  | stages => simp only [List.flatMap_eq_nil_iff, forall_const]
  | failures => simp

/-- A send of `d` keeps the rule exactly when nobody is called `early` for it. -/
theorem Listeners.lawful_iff (r : Listeners) (d : Dispatch) : r.Lawful d ↔ d.early = [] := by
  rw [Lawful, calls_eq, called]
  constructor
  · intro h
    have hlength := congrArg List.length h
    simp only [Dispatch.callsOf, List.length_map, List.length_append] at hlength
    exact List.eq_nil_of_length_eq_zero (by omega)
  · intro h
    rw [h, List.append_nil]

/-- How the sends `ds`, made one after another, call listeners. -/
structure Listeners.Announces (r : Listeners) (ds : List Dispatch) : Prop where
  /-- Each send calls, each once and whoever of them fails, the listener of its request, the
      page-wide listeners of its topic in the order of registration — those of the beginning and
      those registered in the sends before it — and then those that are called early. -/
  calls : ∀ before d rest, ds = before ++ d :: rest →
    (r.after before).calls d =
      d.callsOf (d.own ++ (r.of d.topic ++ r.registeredIn d.topic before) ++ d.early)
  /-- What the listeners called for a send register stays, in its place, among those called for each
      later send of the topic. -/
  later : ∀ before d between d' rest, ds = before ++ d :: between ++ d' :: rest →
    (r.after (before ++ d :: between)).calls d' = d'.callsOf (d'.own ++
      ((r.after before).of d'.topic ++
        ((r.after before).called d).flatMap (Listener.registered d'.topic) ++
        (r.after (before ++ [d])).registeredIn d'.topic between) ++ d'.early)
  /-- The rule is kept for failures. -/
  failures : ∀ before d rest, ds = before ++ d :: rest → d.topic = .failures →
    (r.after before).Lawful d
  /-- All sends keep the rule exactly when no stage is sent whose request has a listener that
      registers a page-wide listener of stages. -/
  lawful_iff : (∀ before d rest, ds = before ++ d :: rest → (r.after before).Lawful d) ↔
    ∀ d ∈ ds, d.topic = .stages → ∀ l ∈ d.own, l.registered .stages = []

/-- Listeners are called in order and each once along the sends `ds`, whoever of them fails and
    whatever they register; a send of a stage also calls what the listener of the request has just
    registered. -/
theorem Listeners.announces_after (r : Listeners) (ds : List Dispatch) : r.Announces ds where
  calls before d rest _ := by
    rw [calls_eq, called, Dispatch.due, of_after]
  later before d between d' rest _ := by
    have hsplit : before ++ d :: between = before ++ [d] ++ between := by simp
    have hnext : r.after (before ++ [d]) = (r.after before).next d := r.after_append before [d]
    rw [calls_eq, called, Dispatch.due, hsplit, after_append, of_after, hnext, of_next]
  failures before d rest _ htopic := by
    rw [lawful_iff, Dispatch.early_eq_nil_iff]
    intro hstages
    exact absurd (htopic.symm.trans hstages) (by decide)
  lawful_iff := by
    constructor
    · intro h d hd
      obtain ⟨before, rest, rfl⟩ := List.append_of_mem hd
      exact d.early_eq_nil_iff.mp ((lawful_iff _ d).mp (h before d rest rfl))
    · intro h before d rest hds
      have hd : d ∈ ds := by rw [hds]; exact List.mem_append_right _ List.mem_cons_self
      exact (lawful_iff _ d).mpr (d.early_eq_nil_iff.mpr (h d hd))

/-- A request whose listener registers a page-wide one of the topic it is told about: told of the
    begin, it has the new one called in the very same send, and told of a failure, it has not. -/
example :
    let recruiter (t : Topic) : Listener := ⟨"own", .register t "new" .record .record⟩
    let began : Dispatch := {
      callbacks := { onEvent := recruiter .stages }
      notice := .event { status := .begin, source := "src", request := ⟨1⟩ } }
    let failed : Dispatch := {
      callbacks := { onError := recruiter .failures }
      notice := .error { kind := .httpError, description := "", source := "src", request := ⟨1⟩ } }
    (Listeners.calls {} began).map Call.listener = ["own", "new"] ∧
      (Listeners.calls {} failed).map Call.listener = ["own"] :=
  ⟨rfl, rfl⟩

end PagePatch
