import PagePatch.Proofs.Queue.Run

namespace PagePatch

/-!
# What bounds a queue, and what keeps it busy

No more entries wait than the bound of a queue allows, none waits while nothing is in flight, and
what is held apart takes no part in either.

* `Queue.Bounded` — no more entries wait than the bound allows, and every command keeps to that;
* `Queue.Steady` — all that a queue never does: to exceed its bound, to have a backlog, to drop what
  is held, to give up the request in flight;
* `steady_after` — this holds of every queue that started as a new one.
-/

namespace Queue

variable {q p : Queue} {c : QueueCommand} {e : Entry}

/-! ### The bound -/

/-- No more entries wait than the bound `maxSize` allows. Without a bound this says nothing. -/
def Bounded (q : Queue) : Prop :=
  ∀ max, q.maxSize = some max → q.pending.length ≤ max

/-- Dropping with `trim` leads back to the bound, however many entries waited before. -/
theorem bounded_trim (q : Queue) : q.trim.2.Bounded := by
  obtain ⟨pending, current, maxSize, delayed, lastGeneration⟩ := q
  cases maxSize with
  | none => exact nofun
  | some m =>
    rintro max ⟨rfl⟩
    show (pending.drop (pending.length - m)).length ≤ m
    rw [List.length_drop]
    omega

/-- The bound that an entry brings along is applied by `override` at once, before the entry itself
    is looked at. -/
theorem bounded_override (h : q.Bounded) (size : Option Nat) : (q.override size).Bounded := by
  cases size with
  | none => exact h
  | some n => exact bounded_trim { q with maxSize := some n }

/-- An entry is put in flight by `place`, or it waits and is counted. -/
theorem bounded_place (hvalid : q.Valid) (h : q.Bounded) (e : Entry) : (q.place e).2.Bounded := by
  cases hcurrent : q.current with
  | none =>
    rw [place_of_idle hvalid hcurrent]
    exact h
  | some id =>
    rw [place_of_busy hcurrent]
    exact bounded_trim { q with pending := q.pending ++ [e] }

/-- Every command `c` keeps to the bound, also the one that sets another bound. -/
theorem bounded_obey (hvalid : q.Valid) (h : q.Bounded) (c : QueueCommand) :
    (q.obey c).2.Bounded := by
  have hcourse := course_obey hvalid c
  generalize q.obey c = answered at hcourse ⊢
  obtain ⟨a, q'⟩ := answered
  cases hcourse with
  | placed hplacing =>
    have hplaces := places_of_placing hvalid hplacing
    refine bounded_place (hplaces.valid hvalid) ?_ _
    obtain ⟨size, hp⟩ := hplaces.left
    rw [hp]
    exact bounded_override h size
  | @deferred e hdelayed delay => exact bounded_override h e.queueSize
  | still hinert hanswer => exact h
  | completed hid =>
    -- one entry less waits than before
    intro max hmax
    have hlength := h max hmax
    rw [List.length_tail]
    omega
  | cancelled => exact fun max _ => Nat.zero_le max
  | resized maxSize => exact bounded_trim { q with maxSize }

/-- A run keeps to the bound: this is `bounded_obey` at each of its commands. -/
theorem bounded_after (hvalid : q.Valid) (h : q.Bounded) (cs : List QueueCommand) :
    (q.after cs).Bounded := by
  induction cs generalizing q with
  | nil => exact h
  | cons c cs ih => exact ih (turnover_obey hvalid c).valid (bounded_obey hvalid h c)

/-! ### The held entries -/

variable (q) (held : List (String × Deferral))

/-- Dropping with `trim` looks at the waiting entries only, so other `held` ones make no
    difference. -/
theorem trim_held : { q with delayed := held }.trim =
    (q.trim.1, { q.trim.2 with delayed := held }) := by
  obtain ⟨pending, current, maxSize, delayed, lastGeneration⟩ := q
  cases maxSize <;> rfl

/-- Nor do they make one to `override`, the bound that an entry brings along. -/
theorem override_held (size : Option Nat) : { q with delayed := held }.override size =
    { q.override size with delayed := held } := by
  cases size with
  | none => rfl
  | some n => exact congrArg Prod.snd (trim_held { q with maxSize := some n } held)

/-- Nor does `evictedBy`, what that bound drives out, depend on the entries `held`. -/
theorem evictedBy_held (size : Option Nat) :
    { q with delayed := held }.evictedBy size = q.evictedBy size := by
  cases size with
  | none => rfl
  | some n => exact (congrArg Prod.fst (trim_held { q with maxSize := some n } held) :)

/-- Nor does `dequeue`, the entry that is handed out next. -/
theorem dequeue_held : { q with delayed := held }.dequeue =
    (q.dequeue.1, { q.dequeue.2 with delayed := held }) := by
  obtain ⟨pending, current, maxSize, delayed, lastGeneration⟩ := q
  cases current <;> cases pending <;> rfl

/-- Nor does `place`, what becomes of an entry that is placed. -/
theorem place_held (e : Entry) : { q with delayed := held }.place e =
    ((q.place e).1, { (q.place e).2 with delayed := held }) := by
  unfold place
  by_cases hidle : (q.current.isNone && q.pending.isEmpty) = true
  · simp only [hidle, if_true]
  · have htrim := trim_held { q with pending := q.pending ++ [e] } held
    have hnext := dequeue_held { q with pending := q.pending ++ [e] }.trim.2 held
    simp only [hidle, htrim, hnext]
    generalize { q with pending := q.pending ++ [e] }.trim.2.dequeue = next
    obtain ⟨_ | head, rest⟩ := next <;> rfl

/-- **Held apart.** With other entries `held`, as long as a release finds the same one, the same
    entries are driven out by the command `c`, and the same ones wait. -/
theorem evictedOn_held (c : QueueCommand) (hsame : ∀ source generation,
      c = .release source generation → held.lookup source = q.deferral? source) :
    { q with delayed := held }.evictedOn c = q.evictedOn c ∧
      ({ q with delayed := held }.obey c).2.pending = (q.obey c).2.pending := by
  -- both queues take the same branch, and the held entries have no part in what follows
  cases c with
  | enqueue e =>
    cases hdelayed : e.isDelayed with
    | true =>
      obtain ⟨delay, henqueue⟩ := enqueue_of_delayed hdelayed q
      obtain ⟨delay', henqueue'⟩ := enqueue_of_delayed hdelayed { q with delayed := held }
      simp only [evictedOn, QueueCommand.unreported, obey, henqueue, henqueue', evictedBy_held,
        override_held]
      exact ⟨rfl, rfl⟩
    | false =>
      simp only [evictedOn, QueueCommand.unreported, obey, enqueue_of_not_delayed hdelayed,
        evictedBy_held, override_held, place_held, and_self]
  | release source generation =>
    have hfind : ({ q with delayed := held } : Queue).deferral? source = q.deferral? source :=
      hsame source generation rfl
    cases hfound : (q.deferral? source).filter (·.generation = generation) with
    | none =>
      have hfound' := hfind ▸ hfound
      simp only [evictedOn, QueueCommand.unreported, obey, release_of_stale hfound,
        release_of_stale hfound', and_self]
    | some d =>
      obtain ⟨hheld, rfl⟩ := held_of_filter hfound
      simp only [evictedOn, QueueCommand.unreported, obey, release_of_held hheld,
        release_of_held (hfind.trans hheld), place_held, and_self]
  | dequeue =>
    simp only [evictedOn, QueueCommand.unreported, obey, dequeue_held, and_self]
  | complete id =>
    by_cases hid : q.current = some id
    · have hother := complete_eq (q := { q with delayed := held }) hid
      simp only [evictedOn, QueueCommand.unreported, obey, complete_eq hid, hother, and_self]
    · have hother := complete_of_ne (q := { q with delayed := held }) hid
      simp only [evictedOn, QueueCommand.unreported, obey, complete_of_ne hid, hother, and_self]
  | cancelAll => exact ⟨rfl, rfl⟩
  | resize maxSize =>
    have htrim := trim_held { q with maxSize } held
    simp only [evictedOn, QueueCommand.unreported, obey, resize, htrim, and_self]

variable {q}

/-- Whatever is driven out by the command `c` waited in `q.pending` before, or it was to be placed
    by `c`. -/
theorem mem_evictedOn (hvalid : q.Valid) {x : Entry} (hx : x ∈ q.evictedOn c) :
    x ∈ q.pending ∨ ∃ p, q.placing c = some (p, x) := by
  have hbound : ∀ size, q.evictedBy size ⊆ q.pending :=
    fun size y hy => evictedBy_append q size ▸ List.mem_append_left _ hy
  have hcourse := course_obey hvalid c
  unfold evictedOn at hx
  generalize q.obey c = answered at hcourse hx
  obtain ⟨a, q'⟩ := answered
  cases hcourse with
  | @placed _ p e hplacing =>
    have hplaces := places_of_placing hvalid hplacing
    -- what is driven out comes first among those that wait, then the entry that is placed
    have hmem : x ∈ c.unreported q ++ (p.pending ++ [e]) := by
      rw [← place_append (hplaces.valid hvalid) e, List.append_assoc, ← List.append_assoc]
      exact List.mem_append_left _ hx
    rw [← List.append_assoc, hplaces.pending] at hmem
    rcases List.mem_append.mp hmem with hwaits | hlast
    · exact .inl hwaits
    · obtain rfl := List.mem_singleton.mp hlast
      exact .inr ⟨p, hplacing⟩
  | @deferred e hdelayed delay =>
    have hdriven : x ∈ q.evictedBy e.queueSize ++ [] := hx
    rw [List.append_nil] at hdriven
    exact .inl (hbound e.queueSize hdriven)
  | still hinert hanswer =>
    rw [hinert.unreported] at hx
    rcases hanswer with rfl | rfl <;> cases hx
  | resized maxSize =>
    rw [← trim_append { q with maxSize }]
    exact .inl (List.mem_append_left _ hx)
  | completed hid => cases hx
  | cancelled => cases hx

/-- The row of `key` is still found when the rows of the `other` key are left out. -/
theorem lookup_filter_ne {α : Type} (l : List (String × α)) {key other : String}
    (h : key ≠ other) : (l.filter (·.1 ≠ other)).lookup key = l.lookup key := by
  induction l with
  | nil => rfl
  | cons row rest ih =>
    obtain ⟨source, x⟩ := row
    by_cases hrow : source = other
    · have hbeq : (key == source) = false := by
        rw [beq_eq_false_iff_ne, hrow]
        exact h
      rw [List.filter_cons_of_neg (by simpa using hrow), ih, List.lookup_cons, hbeq]
    · rw [List.filter_cons_of_pos (by simpa using hrow), List.lookup_cons, List.lookup_cons, ih]

/-- What is held for `source` stays held until it is released under its number, another entry with a
    delay takes its place, or everything is dropped: a command `c` that ends it is one of these. -/
theorem deferral?_obey (hvalid : q.Valid) {source : String} {d : Deferral}
    (hheld : q.deferral? source = some d) (c : QueueCommand) :
    (q.obey c).2.deferral? source = some d ∨ c = .release source d.generation ∨
      (∃ e, c = .enqueue e ∧ e.isDelayed = true ∧ e.source = source) ∨ c = .cancelAll := by
  have hcourse := course_obey hvalid c
  generalize q.obey c = answered at hcourse ⊢
  obtain ⟨a, q'⟩ := answered
  cases hcourse with
  | @placed _ p e hplacing =>
    have hdelayed := place_delayed ((places_of_placing hvalid hplacing).valid hvalid) e
    simp only [deferral?, hdelayed]
    -- a new entry without a delay leaves the table alone; a release takes out one row
    cases c with
    | enqueue new =>
      left
      simp only [placing, Option.ite_none_left_eq_some, Option.some.injEq,
        Prod.mk.injEq] at hplacing
      obtain ⟨-, rfl, -⟩ := hplacing
      rw [override_delayed]
      exact hheld
    | release other generation =>
      obtain ⟨d', hfound, hplaced⟩ := Option.map_eq_some_iff.mp hplacing
      obtain ⟨rfl, -⟩ := Prod.mk.inj hplaced
      obtain ⟨hheld', rfl⟩ := held_of_filter hfound
      by_cases hsource : source = other
      · subst hsource
        obtain rfl : d = d' := Option.some.inj (hheld.symm.trans hheld')
        exact .inr (.inl rfl)
      · exact .inl ((lookup_filter_ne _ hsource).trans hheld)
    | _ => cases hplacing
  | @deferred e hdelayed delay =>
    by_cases hsource : e.source = source
    · exact .inr (.inr (.inl ⟨e, rfl, hdelayed, hsource⟩))
    · left
      simp only [deferral?, override_delayed, List.lookup_append,
        lookup_filter_ne _ (Ne.symm hsource)]
      rw [show q.delayed.lookup source = some d from hheld, Option.some_or]
  | still hinert hanswer => exact .inl hheld
  | completed hid => exact .inl hheld
  | cancelled => exact .inr (.inr (.inr rfl))
  | resized maxSize =>
    left
    simp only [resize, deferral?, trim_delayed]
    exact hheld

/-- The request `id` in flight stays in flight until it is completed, whatever else the queue is
    told. -/
theorem current_obey {id : RequestId} (hvalid : q.Valid) (hcurrent : q.current = some id)
    (hc : c ≠ .complete id) : (q.obey c).2.current = some id := by
  have hstep := turnover_obey hvalid c
  have hends : c.ends q = false := by
    cases c with
    | complete other =>
      refine beq_eq_false_iff_ne.mpr fun heq => hc ?_
      rw [Option.some.inj (hcurrent.symm.trans heq)]
    | _ => rfl
  -- a command that hands out an entry finds an idle queue, or ends what was in flight
  cases hstarted : (q.obey c).1.started with
  | none =>
    rw [hstep.current, hstarted, hends]
    exact hcurrent
  | some e =>
    rcases hstep.alone (by rw [hstarted]; rfl) with hidle | hended
    · cases hcurrent.symm.trans hidle
    · cases hends.symm.trans hended

/-! ### Steadiness -/

/-- Whether the entry `e`, when it is placed on `p`, would have another one handed out that waited
    before: the branch of `Queue.place` that dispatches the head. -/
def servesBacklog (p : Queue) (e : Entry) : Bool :=
  !(p.current.isNone && p.pending.isEmpty) &&
    ({ p with pending := p.pending ++ [e] }.trim.2.dequeue).1.isSome

/-- A `Valid` queue has no entry that could be handed out in this way, so `servesBacklog` is false
    and its branch is never taken. -/
theorem servesBacklog_of_valid (h : p.Valid) (e : Entry) : p.servesBacklog e = false := by
  unfold servesBacklog
  rcases Option.eq_none_or_eq_some p.current with hidle | ⟨id, hcurrent⟩
  · simp [hidle, h.idle hidle]
  · have hbusy := (trim_current { p with pending := p.pending ++ [e] }).trans hcurrent
    rw [dequeue_of_busy hbusy, Option.isSome_none, Bool.and_false]

/-- All that a queue never does, stated of the queue `q` between two commands and of what any
    command would make of it. -/
structure Steady (q : Queue) : Prop where
  /-- It does not let more entries wait than the bound allows. -/
  bounded : ∀ max, q.maxSize = some max → q.pending.length ≤ max
  /-- It has no backlog while nothing is in flight. -/
  idle : q.current = none → q.pending = []
  /-- So it has nothing to hand out between two commands, and to ask it changes nothing. -/
  dequeued : q.dequeue = (none, q)
  /-- Nor does it ever hand out a waiting entry when another one is placed. -/
  unserved : ∀ c p e, q.placing c = some (p, e) → p.servesBacklog e = false
  /-- It does not count the held entries: others would not change what is driven out and what
      waits, as long as a release finds the same one. -/
  uncounted : ∀ held c, (∀ source generation, c = .release source generation →
      held.lookup source = q.deferral? source) →
    { q with delayed := held }.evictedOn c = q.evictedOn c ∧
      ({ q with delayed := held }.obey c).2.pending = (q.obey c).2.pending
  /-- It drives out only entries that waited or were to be placed. -/
  evicted : ∀ c, ∀ x ∈ q.evictedOn c, x ∈ q.pending ∨ ∃ p, q.placing c = some (p, x)
  /-- It drops what is held only for another entry of the same source, or with everything else. -/
  held : ∀ c source d, q.deferral? source = some d →
    (q.obey c).2.deferral? source = some d ∨ c = .release source d.generation ∨
      (∃ e, c = .enqueue e ∧ e.isDelayed = true ∧ e.source = source) ∨ c = .cancelAll
  /-- It does not give up the request in flight before this one is completed. -/
  current : ∀ c id, q.current = some id → c ≠ .complete id → (q.obey c).2.current = some id
  /-- The completion of another request changes nothing at all. -/
  mismatched : ∀ id, q.current ≠ some id → q.complete id = (none, q)

end Queue

open Queue

/-- **Steadiness.** Whatever a new queue was told by the commands `cs`, with any bounds and delays,
    it is `Steady`: it keeps to its bound, has no backlog while nothing is in flight, holds what it
    holds, and leaves the request in flight alone until this one is completed. -/
theorem steady_after (maxSize : Option Nat) (cs : List QueueCommand) :
    (({ maxSize } : Queue).after cs).Steady := by
  have hvalid := valid_after (valid_new maxSize) cs
  refine {
    bounded := bounded_after (valid_new maxSize) (fun max _ => Nat.zero_le max) cs
    idle := hvalid.idle
    dequeued := dequeue_of_valid hvalid
    unserved := fun c p e hplacing =>
      servesBacklog_of_valid ((places_of_placing hvalid hplacing).valid hvalid) e
    uncounted := evictedOn_held _
    evicted := fun c x hx => mem_evictedOn hvalid hx
    held := fun c source d hheld => deferral?_obey hvalid hheld c
    current := fun c id hcurrent hc => current_obey hvalid hcurrent hc
    mismatched := fun id hid => complete_of_ne hid }

end PagePatch
