import Mathlib.Data.List.Perm.Subperm
import PagePatch.Proofs.Queue.Conservation

namespace PagePatch

/-!
# Runs of a queue

A queue is told one thing after another, in any order, and answers each time.

* `QueueCommand` — what a queue can be told, and `QueueAnswer` — what it answers;
* `Queue.obey`, `Queue.after` — the queue after one command, and after commands in order;
* `Queue.gather` — what is found along a run, such as the entries that the queue handed out;
* `Queue.Course`, `Queue.course_obey` — what a command can come to;
* `Queue.Turnover`, `Queue.turnover_obey` — all that a command does with the entries of a queue;
* `Queue.valid_after` — a new queue stays in order.
-/

/-- What a queue can be told: one command for each operation of `Queue` that changes it. -/
inductive QueueCommand where
  /-- To take the entry `e` in, as `Queue.enqueue` does. -/
  | enqueue (e : Entry)
  /-- To admit the entry that is held for `source` under the number `generation`. -/
  | release (source : String) (generation : Nat)
  /-- To put the oldest waiting entry in flight. -/
  | dequeue
  /-- To end the request in flight, if it is the one called `id`. -/
  | complete (id : RequestId)
  /-- To drop every entry that waits or is held. -/
  | cancelAll
  /-- To keep to the bound `maxSize` from now on. -/
  | resize (maxSize : Option Nat)
  deriving DecidableEq, Repr

/-- What a queue answers. Its constructors are the kinds of answers, not the commands: `enqueue` and
    `release` answer alike, and so do `dequeue` and `complete`. -/
inductive QueueAnswer where
  /-- What became of an entry; `none` if a release found nothing to admit. -/
  | admission (a : Option Admission)
  /-- The entry that is in flight now, if there is one. -/
  | next (e : Option Entry)
  /-- The entries that a new bound dropped, one by one. -/
  | dropped (es : List Entry)
  /-- How many entries were dropped, which `cancelAll` tells instead of the entries. -/
  | count (n : Nat)
  deriving DecidableEq, Repr

/-- The entries that the bound drove out when an entry was `queued`. A replaced deferral is not
    among them, as no bound has to do with it. -/
def Admission.evicted : Admission → List Entry
  | queued evicted => evicted
  | _ => []

namespace QueueAnswer

/-- The entry that is handed out to be sent, from an `admission` or as the `next` one. -/
def started : QueueAnswer → Option Entry
  | admission a => a.bind Admission.started
  | next e => e
  | _ => none

/-- The entries that the answer names as dropped: those driven out by a bound, and a replaced
    deferral. A `count` names none. -/
def reported : QueueAnswer → List Entry
  | admission a => a.elim [] Admission.dropped
  | dropped es => es
  | _ => []

/-- How many entries the answer reports as dropped without naming them, as `cancelAll` does. -/
def counted : QueueAnswer → Nat
  | count n => n
  | _ => 0

/-- The entries among the `reported` ones that a bound drove out. -/
def evicted : QueueAnswer → List Entry
  | admission a => a.elim [] Admission.evicted
  | dropped es => es
  | _ => []

end QueueAnswer

/-- Whether an entry is to be held apart first. A delay of zero does not count, as in
    `Queue.enqueue`. -/
def Entry.isDelayed (e : Entry) : Bool :=
  match e.delay with
  | some (_ + 1) => true
  | _ => false

/-- An entry `id` of `source` for runs on fixed inputs, which asks for nothing but to be sent. -/
def Entry.plain (id : RequestId) (source : String) : Entry where
  request := Request.build id {
    scheme := "http", username := "", password := "", host := some (.name "localhost"),
    port := none, path := .segments [], query := none, fragment := none } source none {} 0

namespace QueueCommand

/-- The id of the entry that the command brings along, whether `enqueue` places it or holds it
    apart. -/
def taken : QueueCommand → List RequestId
  | enqueue e => [e.id]
  | _ => []

/-- The id of the entry that is admitted by the command on `q`: one that comes without a delay, or
    one that was held and is released under its number. -/
def admitted (c : QueueCommand) (q : Queue) : List RequestId :=
  match c with
  | enqueue e => if e.isDelayed then [] else [e.id]
  | release source generation =>
    idsOf (((q.deferral? source).filter (·.generation = generation)).map Deferral.entry).toList
  | _ => []

/-- The entries that the bound of a new entry drives out of `q`. The answer does not tell of
    them. -/
def unreported (c : QueueCommand) (q : Queue) : List Entry :=
  match c with
  | enqueue e => q.evictedBy e.queueSize
  | _ => []

/-- The entries that are dropped all at once; the answer gives only their number,
    `QueueAnswer.counted`. -/
def cancelled (c : QueueCommand) (q : Queue) : List Entry :=
  match c with
  | cancelAll => q.kept
  | _ => []

/-- Whether the command `c` ends the request in flight of `q`, which makes room for another one. -/
def ends (c : QueueCommand) (q : Queue) : Bool :=
  match c with
  | complete id => q.current == some id
  | _ => false

end QueueCommand

/-- The ids of the entries that the commands `cs` bring along, in their order. -/
def takenIn (cs : List QueueCommand) : List RequestId :=
  cs.flatMap QueueCommand.taken

@[simp] theorem takenIn_append (cs ds : List QueueCommand) :
    takenIn (cs ++ ds) = takenIn cs ++ takenIn ds :=
  List.flatMap_append

namespace Queue

/-- Acts on a command, by the operation of the queue that it stands for; what the operation returns
    is put in a `QueueAnswer`. -/
def obey (q : Queue) : QueueCommand → QueueAnswer × Queue
  | .enqueue e => (.admission (some (q.enqueue e).1), (q.enqueue e).2)
  | .release source generation =>
    (.admission (q.release source generation).1, (q.release source generation).2)
  | .dequeue => (.next q.dequeue.1, q.dequeue.2)
  | .complete id => (.next (q.complete id).1, (q.complete id).2)
  | .cancelAll => (.count q.cancelAll.1, q.cancelAll.2)
  | .resize maxSize => (.dropped (q.resize maxSize).1, (q.resize maxSize).2)

/-- The entries that the command `c` drives out by a bound, the oldest first, whether it tells of
    them or not. -/
def evictedOn (q : Queue) (c : QueueCommand) : List Entry :=
  c.unreported q ++ (q.obey c).1.evicted

/-- The queue after the commands `cs`, one after the other. -/
def after (q : Queue) (cs : List QueueCommand) : Queue :=
  cs.foldl (fun q c => (q.obey c).2) q

/-- What `f` finds along a run, where each command is looked at with the queue that it meets. -/
def gather {α : Type} (f : QueueCommand → Queue → List α) (q : Queue) : List QueueCommand → List α
  | [] => []
  | c :: cs => f c q ++ gather f (q.obey c).2 cs

theorem after_cons (q : Queue) (c : QueueCommand) (cs : List QueueCommand) :
    q.after (c :: cs) = (q.obey c).2.after cs :=
  rfl

theorem after_append (q : Queue) (cs ds : List QueueCommand) :
    q.after (cs ++ ds) = (q.after cs).after ds :=
  List.foldl_append

@[simp] theorem after_snoc (q : Queue) (cs : List QueueCommand) (c : QueueCommand) :
    q.after (cs ++ [c]) = ((q.after cs).obey c).2 :=
  after_append q cs [c]

theorem gather_append {α : Type} (f : QueueCommand → Queue → List α) (q : Queue)
    (cs ds : List QueueCommand) :
    gather f q (cs ++ ds) = gather f q cs ++ gather f (q.after cs) ds := by
  induction cs generalizing q with
  | nil => rfl
  | cons c cs ih =>
    simp only [List.cons_append, gather, ih, List.append_assoc]
    rfl

@[simp] theorem gather_snoc {α : Type} (f : QueueCommand → Queue → List α) (q : Queue)
    (cs : List QueueCommand) (c : QueueCommand) :
    gather f q (cs ++ [c]) = gather f q cs ++ f c (q.after cs) := by
  rw [gather_append, gather, gather, List.append_nil]

/-- Whatever `gather f` finds along a run is found at one of its commands `c`, in the queue that the
    commands `before` led to. -/
theorem mem_gather {α : Type} {f : QueueCommand → Queue → List α} {q : Queue}
    {cs : List QueueCommand} {x : α} :
    x ∈ gather f q cs ↔ ∃ before c rest, cs = before ++ c :: rest ∧ x ∈ f c (q.after before) := by
  induction cs generalizing q with
  | nil => simp [gather]
  | cons c cs ih =>
    rw [gather, List.mem_append, ih]
    constructor
    · rintro (hx | ⟨before, c', rest, rfl, hx⟩)
      · exact ⟨[], c, cs, rfl, hx⟩
      · exact ⟨c :: before, c', rest, rfl, hx⟩
    · rintro ⟨_ | ⟨c', before⟩, c'', rest, hsplit, hx⟩
      · obtain ⟨rfl, rfl⟩ := List.cons.inj hsplit
        exact .inl hx
      · obtain ⟨rfl, rfl⟩ := List.cons.inj hsplit
        exact .inr ⟨before, c'', rest, rfl, hx⟩

/-! ### Commands on a queue in order -/

/-- A queue in order has nothing to hand out between two commands, so `dequeue` does nothing: either
    a request is in flight, or none waits. -/
theorem dequeue_of_valid {q : Queue} (h : q.Valid) : q.dequeue = (none, q) := by
  cases hcurrent : q.current with
  | none => simp only [dequeue, hcurrent, h.idle hcurrent]
  | some id => exact dequeue_of_busy hcurrent

/-- The end of a request `id` that is not in flight changes nothing, and hands nothing out. -/
theorem complete_of_ne {q : Queue} {id : RequestId} (h : q.current ≠ some id) :
    q.complete id = (none, q) := by
  simp only [complete, h, if_false]

/-- An entry `e` with a delay is held apart by `defer`, after the bound that it brings along was
    applied. -/
theorem enqueue_of_delayed {e : Entry} (h : e.isDelayed = true) (q : Queue) :
    ∃ delay, q.enqueue e = (q.override e.queueSize).defer e delay := by
  unfold Entry.isDelayed at h
  split at h
  · rename_i delay hdelay
    exact ⟨delay + 1, by simp only [enqueue, hdelay]⟩
  · cases h

/-- An entry `e` without a delay is placed, after the bound that it brings along was applied by
    `override`. -/
theorem enqueue_of_not_delayed {e : Entry} (h : e.isDelayed = false) (q : Queue) :
    q.enqueue e = (q.override e.queueSize).place { e with delay := none } := by
  cases hdelay : e.delay with
  | none => simp only [enqueue, hdelay]
  | some delay =>
    cases delay with
    | zero => simp only [enqueue, hdelay]
    | succ delay => simp [Entry.isDelayed, hdelay] at h

/-- A `held` entry that is released under its number is placed on what is left of `q` when it is
    held no longer. -/
theorem release_of_held {q : Queue} {source : String} {held : Deferral}
    (h : q.deferral? source = some held) :
    q.release source held.generation =
      (some ({ q with delayed := q.delayed.filter (·.1 ≠ source) }.place
          { held.entry with delay := none }).1,
        ({ q with delayed := q.delayed.filter (·.1 ≠ source) }.place
          { held.entry with delay := none }).2) := by
  simp only [release, h, if_true]

/-- A deferral that is found for `source` by the number `generation` is the one that is held, and
    has this number. -/
theorem held_of_filter {q : Queue} {source : String} {generation : Nat} {held : Deferral}
    (h : (q.deferral? source).filter (·.generation = generation) = some held) :
    q.deferral? source = some held ∧ held.generation = generation := by
  obtain ⟨hheld, hgeneration⟩ := Option.filter_eq_some_iff.mp h
  exact ⟨hheld, of_decide_eq_true hgeneration⟩

/-- A release whose `generation` is not that of the held entry, or for a source without one, changes
    nothing. -/
theorem release_of_stale {q : Queue} {source : String} {generation : Nat}
    (h : (q.deferral? source).filter (·.generation = generation) = none) :
    q.release source generation = (none, q) := by
  unfold release
  cases hheld : q.deferral? source with
  | none => rfl
  | some held =>
    rw [hheld, Option.filter_some] at h
    by_cases hgeneration : held.generation = generation
    · simp [hgeneration] at h
    · simp only [hgeneration, if_false]

/-! ### The order of the waiting entries -/

/-- What `trim` drops are the oldest entries, and the others keep their order. -/
theorem trim_append (q : Queue) : q.trim.1 ++ q.trim.2.pending = q.pending := by
  unfold trim
  cases q.maxSize with
  | none => rfl
  | some max => exact List.take_append_drop _ _

/-- Dropping by `trim` does not touch the held entries. -/
theorem trim_delayed (q : Queue) : q.trim.2.delayed = q.delayed := by
  unfold trim
  cases q.maxSize <;> rfl

/-- Nor does `override`, the bound that an entry brings along, touch them. -/
theorem override_delayed (q : Queue) (size : Option Nat) :
    (q.override size).delayed = q.delayed := by
  cases size with
  | none => rfl
  | some n => exact trim_delayed { q with maxSize := some n }

/-- The bound that an entry brings along drives out the oldest of the waiting entries: `evictedBy`
    is the front of `q.pending`. -/
theorem evictedBy_append (q : Queue) (size : Option Nat) :
    q.evictedBy size ++ (q.override size).pending = q.pending := by
  cases size with
  | none => rfl
  | some n => exact trim_append { q with maxSize := some n }

/-- An entry `e` is placed behind those that wait: what is driven out, what is put in flight and
    what waits afterwards follow one another in this order. -/
theorem place_append {q : Queue} (h : q.Valid) (e : Entry) :
    (q.place e).1.evicted ++ (q.place e).1.started.toList ++ (q.place e).2.pending =
      q.pending ++ [e] := by
  cases hcurrent : q.current with
  | none =>
    rw [place_of_idle h hcurrent, h.idle hcurrent]
    simp only [Admission.evicted, Admission.started, Option.toList_some, List.nil_append,
      List.append_nil]
  | some id =>
    rw [place_of_busy hcurrent]
    simp only [Admission.evicted, Admission.started, Option.toList_none, List.append_nil]
    exact trim_append { q with pending := q.pending ++ [e] }

/-- Placing by `place` does not touch the held entries. -/
theorem place_delayed {q : Queue} (h : q.Valid) (e : Entry) :
    (q.place e).2.delayed = q.delayed := by
  cases hcurrent : q.current with
  | none => rw [place_of_idle h hcurrent]
  | some id =>
    rw [place_of_busy hcurrent]
    exact trim_delayed { q with pending := q.pending ++ [e] }

/-! ### Placing an entry -/

/-- The queue on which the command places an entry, and this entry; `none` if it places nothing. A
    new entry meets the queue with its own bound, a released one the queue that does not hold it any
    more. -/
def placing (q : Queue) : QueueCommand → Option (Queue × Entry)
  | .enqueue e =>
    if e.isDelayed then none else some (q.override e.queueSize, { e with delay := none })
  | .release source generation =>
    ((q.deferral? source).filter (·.generation = generation)).map fun held =>
      ({ q with delayed := q.delayed.filter (·.1 ≠ source) }, { held.entry with delay := none })
  | _ => none

variable {q p q' : Queue} {c : QueueCommand} {e : Entry} {a : QueueAnswer}

/-- The command `c` places `e` on `p`, which is what is left of the queue `q` by then. New and
    released entries have the rest in common, so what follows is proved of both at once. -/
structure Places (q : Queue) (c : QueueCommand) (p : Queue) (e : Entry) : Prop where
  /-- To place the entry on `p` is all that is left to do. -/
  obeyed : q.obey c = (.admission (some (p.place e).1), (p.place e).2)
  /-- Apart from what it holds, `p` differs from `q` at most by the bound that the entry brings
      along. -/
  left : ∃ size, p = { q.override size with delayed := p.delayed }
  /-- What `p` holds was held by `q` before. -/
  held : p.delayed.Sublist q.delayed
  /-- What waited in `q` waits still in `p`, unless the bound drove it out. -/
  pending : c.unreported q ++ p.pending = q.pending
  /-- The entry is new or was held by `q`, and is not held by `p` any more. -/
  taken : (c.taken ++ idsOf (q.delayed.map (·.2.entry))).Perm
    (e.id :: idsOf (p.delayed.map (·.2.entry)))
  /-- It is the one that the command admits. -/
  admitted : c.admitted q = [e.id]
  /-- No entries are dropped all at once. -/
  cancelled : c.cancelled q = []
  /-- The request in flight goes on, so a busy queue stays busy. -/
  ends : c.ends q = false

/-- What `placing` names is what the command places, for a new entry and for a released one. -/
theorem places_of_placing (hvalid : q.Valid) (h : q.placing c = some (p, e)) : Places q c p e := by
  cases c with
  | enqueue new =>
    cases hdelayed : new.isDelayed with
    | true => simp [placing, hdelayed] at h
    | false =>
      simp only [placing, hdelayed, Bool.false_eq_true, if_false, Option.some.injEq,
        Prod.mk.injEq] at h
      obtain ⟨rfl, rfl⟩ := h
      exact {
        obeyed := by simp only [obey, enqueue_of_not_delayed hdelayed]
        left := ⟨new.queueSize, rfl⟩
        held := by rw [override_delayed]
        pending := evictedBy_append q new.queueSize
        taken := by rw [override_delayed]; exact .refl _
        admitted := by simp only [QueueCommand.admitted, hdelayed]; rfl
        cancelled := rfl
        ends := rfl }
  | release source generation =>
    -- the row of the source was the only one for it, so without it no other entry is lost
    obtain ⟨held, hfound, hplaced⟩ := Option.map_eq_some_iff.mp h
    obtain ⟨rfl, rfl⟩ := Prod.mk.inj hplaced
    obtain ⟨hheld, rfl⟩ := held_of_filter hfound
    have hrows := perm_held hvalid source
    rw [hheld] at hrows
    exact {
      obeyed := by simp only [obey, release_of_held hheld]
      left := ⟨none, rfl⟩
      held := List.filter_sublist
      pending := rfl
      taken := hrows
      admitted := by simp only [QueueCommand.admitted, hfound]; rfl
      cancelled := rfl
      ends := rfl }
  | _ => cases h

namespace Places

/-- What is left, `p`, is in order, if the queue `q` was. -/
theorem valid (h : Places q c p e) (hvalid : q.Valid) : p.Valid := by
  obtain ⟨size, hp⟩ := h.left
  rw [hp]
  exact ⟨(flow_override hvalid size).valid.idle, hvalid.sources.sublist (h.held.map _)⟩

/-- The request in flight in `p` is the same as in `q` before. -/
theorem current (h : Places q c p e) (hvalid : q.Valid) : p.current = q.current := by
  obtain ⟨size, hp⟩ := h.left
  rw [hp]
  exact (flow_override hvalid size).current

end Places

/-! ### The courses of a command -/

/-- The command `c` brings nothing along and takes nothing away from `q`, as a release does that
    comes too late. -/
structure Inert (q : Queue) (c : QueueCommand) : Prop where
  /-- It takes in nothing. -/
  taken : c.taken = []
  /-- It admits nothing. -/
  admitted : c.admitted q = []
  /-- No bound drives anything out in silence. -/
  unreported : c.unreported q = []
  /-- It drops nothing. -/
  cancelled : c.cancelled q = []
  /-- The request in flight goes on. -/
  ends : c.ends q = false

/-- What a command of the queue `q` in order can come to, with its answer and the queue
    afterwards. -/
inductive Course (q : Queue) : QueueCommand → QueueAnswer → Queue → Prop
  /-- An entry `e` is placed on `p`, whether it is new or was held. -/
  | placed {c : QueueCommand} {p : Queue} {e : Entry} (h : q.placing c = some (p, e)) :
      Course q c (.admission (some (p.place e).1)) (p.place e).2
  /-- A new entry is held apart, after its bound was applied. -/
  | deferred {e : Entry} (hdelayed : e.isDelayed = true) (delay : Nat) :
      Course q (.enqueue e) (.admission (some ((q.override e.queueSize).defer e delay).1))
        ((q.override e.queueSize).defer e delay).2
  /-- Nothing happens, and the answer says so. -/
  | still {c : QueueCommand} {a : QueueAnswer} (h : Inert q c)
      (hanswer : a = .admission none ∨ a = .next none) : Course q c a q
  /-- The oldest waiting entry takes the place of the request in flight, or the queue becomes
      idle. -/
  | completed {id : RequestId} (hid : q.current = some id) :
      Course q (.complete id) (.next q.pending.head?)
        { q with pending := q.pending.tail, current := q.pending.head?.map Entry.id }
  /-- Everything that waits or is held is dropped. -/
  | cancelled : Course q .cancelAll (.count q.cancelAll.1) q.cancelAll.2
  /-- Another bound drives out what is beyond it, and the answer names what it drove out. -/
  | resized (maxSize : Option Nat) :
      Course q (.resize maxSize) (.dropped (q.resize maxSize).1) (q.resize maxSize).2

/-- **Inversion.** A queue in order takes one of the ways of `Course` on every command `c`. Nothing
    below has to unfold the operations again. -/
theorem course_obey (h : q.Valid) (c : QueueCommand) : Course q c (q.obey c).1 (q.obey c).2 := by
  -- the commands that place an entry are done first, all alike
  cases hplacing : q.placing c with
  | some placed =>
    rw [(places_of_placing h hplacing).obeyed]
    exact .placed hplacing
  | none =>
    cases c with
    | enqueue e =>
      have hdelayed : e.isDelayed = true := by simpa [placing] using hplacing
      obtain ⟨delay, henqueue⟩ := enqueue_of_delayed hdelayed q
      simp only [obey, henqueue]
      exact .deferred hdelayed delay
    | release source generation =>
      have hstale := Option.map_eq_none_iff.mp hplacing
      simp only [obey, release_of_stale hstale]
      refine .still ⟨rfl, ?_, rfl, rfl, rfl⟩ (.inl rfl)
      simp only [QueueCommand.admitted, hstale]
      rfl
    | dequeue =>
      simp only [obey, dequeue_of_valid h]
      exact .still ⟨rfl, rfl, rfl, rfl, rfl⟩ (.inr rfl)
    | complete id =>
      by_cases hid : q.current = some id
      · simp only [obey, complete_eq hid]
        exact .completed hid
      · simp only [obey, complete_of_ne hid]
        exact .still ⟨rfl, rfl, rfl, rfl, beq_eq_false_iff_ne.mpr hid⟩ (.inr rfl)
    | cancelAll => exact .cancelled
    | resize maxSize => exact .resized maxSize

/-! ### What a command does -/

/-- All that the command `c`, which `a` answers, does with the entries of the queue `q`, which
    becomes `q'`. -/
structure Turnover (q : Queue) (c : QueueCommand) (a : QueueAnswer) (q' : Queue) : Prop where
  /-- The queue is in order again, so the next command can be looked at in the same way. -/
  valid : q'.Valid
  /-- What was kept or is taken in is handed out, is kept still or is dropped, each exactly once. -/
  conserved : (c.taken ++ idsOf q.kept).Perm (idsOf a.started.toList ++ idsOf q'.kept ++
    idsOf (c.unreported q ++ a.reported ++ c.cancelled q))
  /-- The oldest waiting entries are driven out or handed out, and an admitted one comes last. -/
  order : (idsOf (c.unreported q ++ a.evicted ++ a.started.toList ++ q'.pending)).Sublist
    (idsOf q.pending ++ c.admitted q)
  /-- What is admitted was held or is new, and it is not held any more. -/
  released : (c.admitted q ++ idsOf (q'.delayed.map (·.2.entry))).Subperm
    (c.taken ++ idsOf (q.delayed.map (·.2.entry)))
  /-- The entry that is handed out is in flight; without one the request in flight stays, unless the
      command ends it. -/
  current : q'.current = (a.started.map Entry.id).or (if c.ends q then none else q.current)
  /-- No entry is handed out behind another one: the queue was idle, or the command ends what was in
      flight. -/
  alone : a.started.isSome → q.current = none ∨ c.ends q = true

/-- The entry `e` is placed behind those that wait, and what is driven out for it comes before all
    of them. -/
theorem Places.turnover (h : Places q c p e) (hvalid : q.Valid) :
    Turnover q c (.admission (some (p.place e).1)) (p.place e).2 := by
  have hflow := flow_place (h.valid hvalid) e
  have hplaced := place_append (h.valid hvalid) e
  have hcurrent := h.current hvalid
  refine {
    valid := hflow.valid
    conserved := ?_
    order := ?_
    released := ?_
    current := ?_
    alone := fun hsome => .inl (hcurrent ▸ hflow.alone hsome) }
  · -- what is left and what is placed are added up id by id
    have hleft := List.perm_iff_count.mp h.taken
    have hcount := List.perm_iff_count.mp hflow.conserved
    rw [List.perm_iff_count]
    intro id
    have hid := hleft id
    have hid' := hcount id
    have hwaited := congrArg (List.count id ∘ idsOf) h.pending
    simp only [h.cancelled, kept, QueueAnswer.started, QueueAnswer.reported, Option.bind_some,
      Option.elim_some, Function.comp_apply, idsOf_append, List.count_append, List.count_cons,
      List.singleton_append, List.append_nil] at hid hid' hwaited ⊢
    omega
  -- the bound drives out the oldest, and the entry is placed behind the rest
  · rw [h.admitted, ← h.pending]
    show (idsOf (c.unreported q ++ (p.place e).1.evicted ++ (p.place e).1.started.toList ++
      (p.place e).2.pending)).Sublist (idsOf (c.unreported q ++ p.pending) ++ idsOf [e])
    rw [List.append_assoc, List.append_assoc, ← List.append_assoc (p.place e).1.evicted, hplaced,
      ← idsOf_append, List.append_assoc]
  · rw [h.admitted, place_delayed (h.valid hvalid)]
    exact h.taken.symm.subperm
  · rw [h.ends, ← hcurrent]
    exact hflow.current

/-- The entry `e` that is held apart takes the place of the one of its source, and no waiting one
    moves. -/
theorem turnover_defer (h : q.Valid) (hdelayed : e.isDelayed = true) (delay : Nat) :
    Turnover q (.enqueue e) (.admission (some ((q.override e.queueSize).defer e delay).1))
      ((q.override e.queueSize).defer e delay).2 := by
  have hbound := flow_override h e.queueSize
  have hflow := hbound.trans (flow_defer hbound.valid e delay)
  refine {
    valid := hflow.valid
    conserved := ?_
    order := ?_
    released := ?_
    current := hflow.current
    alone := nofun }
  · rw [show QueueCommand.cancelled (.enqueue e) q = [] from rfl, List.append_nil]
    exact hflow.conserved
  · -- it comes behind none of the waiting ones
    rw [show QueueCommand.admitted (.enqueue e) q = [] from if_pos hdelayed, List.append_nil]
    show (idsOf (q.evictedBy e.queueSize ++ [] ++ [] ++
      (q.override e.queueSize).pending)).Sublist _
    rw [List.append_nil, List.append_nil, evictedBy_append]
  · rw [show QueueCommand.admitted (.enqueue e) q = [] from if_pos hdelayed, List.nil_append]
    have hothers : (idsOf ((q.delayed.filter (·.1 ≠ e.source)).map (·.2.entry))).Sublist
        (idsOf (q.delayed.map (·.2.entry))) :=
      (List.filter_sublist.map _).map _
    simp only [defer, override_delayed, List.map_append, idsOf_append]
    exact List.perm_append_comm.subperm.trans (hothers.cons_cons e.id).subperm

/-- Where nothing happens `q` keeps everything as it is, whether the answer `a` is that of a release
    or of an end. -/
theorem turnover_still (h : q.Valid) (hinert : Inert q c)
    (hanswer : a = .admission none ∨ a = .next none) : Turnover q c a q := by
  have hempty : a.started = none ∧ a.reported = [] ∧ a.evicted = [] := by
    rcases hanswer with rfl | rfl <;> exact ⟨rfl, rfl, rfl⟩
  obtain ⟨hstarted, hreported, hevicted⟩ := hempty
  obtain ⟨htaken, hadmitted, hunreported, hcancelled, hends⟩ := hinert
  refine {
    valid := h
    conserved := ?_
    order := ?_
    released := ?_
    current := by simp [hstarted, hends]
    alone := by simp [hstarted] }
  · simp [hstarted, hreported, htaken, hunreported, hcancelled]
  · simp [hstarted, hevicted, hadmitted, hunreported]
  · rw [htaken, hadmitted]

/-- The oldest waiting entry takes the place of the request `id` in flight, and the others move
    up. -/
theorem turnover_complete {id : RequestId} (h : q.Valid) (hid : q.current = some id) :
    Turnover q (.complete id) (.next q.pending.head?)
      { q with pending := q.pending.tail, current := q.pending.head?.map Entry.id } := by
  have hends : (QueueCommand.complete id).ends q = true := beq_iff_eq.mpr hid
  have hflow := flow_complete hid h
  rw [complete_eq hid] at hflow
  refine {
    valid := hflow.valid
    conserved := hflow.conserved
    order := ?_
    released := .refl _
    current := by rw [hends]; exact hflow.current
    alone := fun _ => .inr hends }
  show (idsOf (q.pending.head?.toList ++ q.pending.tail)).Sublist (idsOf q.pending ++ [])
  cases q.pending <;> simp

/-- **One command.** Whatever a queue in order is told by `c`, it stays in order, loses no entry,
    and keeps the entries in the order of their admission. What a run does follows from this by
    induction. -/
theorem turnover_obey (h : q.Valid) (c : QueueCommand) :
    Turnover q c (q.obey c).1 (q.obey c).2 := by
  have hcourse := course_obey h c
  generalize q.obey c = answered at hcourse ⊢
  obtain ⟨a, q'⟩ := answered
  -- one case for each course, not for each command: new and released entries are placed alike
  cases hcourse with
  | placed hplacing => exact (places_of_placing h hplacing).turnover h
  | deferred hdelayed delay => exact turnover_defer h hdelayed delay
  | still hinert hanswer => exact turnover_still h hinert hanswer
  | completed hid => exact turnover_complete h hid
  | cancelled =>
    have hflow := flow_cancelAll q
    exact {
      valid := hflow.valid
      conserved := hflow.conserved
      order := List.nil_sublist _
      released := List.nil_subperm
      current := rfl
      alone := nofun }
  | resized maxSize =>
    have hflow := flow_resize h maxSize
    refine {
      valid := hflow.valid
      conserved := ?_
      order := ?_
      released := ?_
      current := hflow.current
      alone := nofun }
    · rw [show QueueCommand.cancelled (.resize maxSize) q = [] from rfl, List.append_nil]
      exact hflow.conserved
    · show (idsOf ((q.resize maxSize).1 ++ [] ++ (q.resize maxSize).2.pending)).Sublist _
      rw [List.append_nil, resize, trim_append]
      exact List.sublist_append_left _ _
    · show (idsOf ((q.resize maxSize).2.delayed.map (·.2.entry))).Subperm _
      rw [resize, trim_delayed]
      exact .refl _

/-- What the command `c` drives out comes before what it hands out, and this before what waits
    afterwards. -/
theorem order_obey (h : q.Valid) (c : QueueCommand) :
    (idsOf (q.evictedOn c ++ (q.obey c).1.started.toList ++ (q.obey c).2.pending)).Sublist
      (idsOf q.pending ++ c.admitted q) :=
  (turnover_obey h c).order

/-! ### Runs -/

/-- A new queue is in order, with any bound `maxSize`. -/
theorem valid_new (maxSize : Option Nat) : ({ maxSize } : Queue).Valid :=
  ⟨fun _ => rfl, List.nodup_nil⟩

/-- A queue in order stays in order along every run `cs`. -/
theorem valid_after {q : Queue} (h : q.Valid) (cs : List QueueCommand) : (q.after cs).Valid := by
  induction cs generalizing q with
  | nil => exact h
  | cons c cs ih => exact ih (turnover_obey h c).valid

end Queue

end PagePatch
