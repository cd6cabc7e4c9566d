import PagePatch.Queue

namespace PagePatch

/-!
# What becomes of the entries of a queue

No entry gets lost: what a queue takes in is started, kept or dropped.

* `Queue.Valid` — an idle queue has no backlog, and no source has two held entries;
* `Queue.Flow` — a change of a queue: what it took in, started and dropped;
* `Queue.flow_enqueue`, `Queue.flow_release`, `Queue.flow_resize`, `Queue.flow_cancelAll`,
  `Queue.flow_complete` — every operation is such a change.
-/

/-- The ids of entries. Books are kept by ids, as `Queue.release` takes the delay off an entry. -/
def idsOf (es : List Entry) : List RequestId :=
  es.map Entry.id

@[simp] theorem idsOf_nil : idsOf [] = [] := rfl

@[simp] theorem idsOf_cons (e : Entry) (es : List Entry) : idsOf (e :: es) = e.id :: idsOf es := rfl

@[simp] theorem idsOf_append (a b : List Entry) : idsOf (a ++ b) = idsOf a ++ idsOf b :=
  List.map_append

/-! ### Entries by source -/

/-- Of a table `l` without repeated keys, the row of a key and the rows of the other keys are all
    there is. -/
theorem perm_lookup_filter {α : Type} (l : List (String × α)) (key : String)
    (h : (l.map Prod.fst).Nodup) :
    l.Perm ((l.lookup key).toList.map (key, ·) ++ l.filter (·.1 ≠ key)) := by
  induction l with
  | nil => exact .nil
  | cons row rest ih =>
    obtain ⟨source, x⟩ := row
    rw [List.map_cons, List.nodup_cons] at h
    obtain ⟨hrow, hrest⟩ := h
    by_cases hkey : source = key
    · subst hkey
      -- no other row has the key, so leaving out its rows leaves out none of the rest
      have hothers : rest.filter (·.1 ≠ source) = rest := by
        rw [List.filter_eq_self]
        intro other hother
        rw [decide_eq_true_eq]
        exact fun heq => hrow (List.mem_map.mpr ⟨other, hother, heq⟩)
      rw [List.lookup_cons, BEq.rfl, List.filter_cons_of_neg (by simp), hothers]
      exact .refl _
    · have hbeq : (key == source) = false := by
        rw [beq_eq_false_iff_ne]
        exact fun heq => hkey heq.symm
      rw [List.lookup_cons, hbeq, List.filter_cons_of_pos (by simpa using hkey)]
      exact ((ih hrest).cons (source, x)).trans List.perm_middle.symm

/-! ### Changes of a queue -/

namespace Queue

/-- The entries that `q` keeps: the waiting ones, and those that are held apart. The one in flight
    is not kept any more, only its id, in `current`. -/
def kept (q : Queue) : List Entry :=
  q.pending ++ q.delayed.map (·.2.entry)

/-- What holds of the queue `q` between two operations; `valid_after` carries it along every run. -/
structure Valid (q : Queue) : Prop where
  /-- An idle queue has no backlog, as whatever ends a request takes the next one. -/
  idle : q.current = none → q.pending = []
  /-- No source has two held entries, so `deferral?` finds all that is held for a source. -/
  sources : (q.delayed.map Prod.fst).Nodup

/-- The queue `q` takes the entries `taken` in, starts one at most, drops the `dropped` ones and
    becomes `q'`. -/
structure Flow (q : Queue) (taken : List RequestId) (started : Option Entry)
    (dropped : List Entry) (q' : Queue) : Prop where
  /-- The queue is in order again. -/
  valid : q'.Valid
  /-- What was there is there still, was started or was dropped, each exactly once. -/
  conserved : (taken ++ idsOf q.kept).Perm (idsOf started.toList ++ idsOf q'.kept ++ idsOf dropped)
  /-- The entry that was started is the one in flight; if none was, the request in flight stays. -/
  current : q'.current = (started.map Entry.id).or q.current
  /-- None is started while another one is in flight. -/
  alone : started.isSome → q.current = none

namespace Flow

variable {q q' q'' : Queue} {taken later : List RequestId} {started : Option Entry}
  {dropped gone : List Entry}

/-- Nothing happens, and nothing is taken in: `q` flows into itself. -/
protected theorem refl (h : q.Valid) : Flow q [] none [] q where
  valid := h
  conserved := by simp
  current := rfl
  alone := nofun

/-- **Composition.** A change from `q` to `q'` that starts nothing, and then one from `q'` to `q''`,
    are a change together. -/
protected theorem trans (h : Flow q taken none dropped q')
    (h' : Flow q' later started gone q'') :
    Flow q (later ++ taken) started (dropped ++ gone) q'' where
  valid := h'.valid
  conserved := by
    -- both changes are added up id by id: as permutations the six lists would have to be reordered
    have hcount := List.perm_iff_count.mp h.conserved
    have hcount' := List.perm_iff_count.mp h'.conserved
    rw [List.perm_iff_count]
    intro id
    have hid := hcount id
    have hid' := hcount' id
    simp only [List.count_append, idsOf_append, Option.toList_none, idsOf_nil,
      List.count_nil] at hid hid' ⊢
    omega
  current := by
    rw [h'.current, h.current]
    rfl
  alone hsome := (h.current.symm.trans (h'.alone hsome) : _)

end Flow

/-! ### Dropping -/

/-- Dropping entries with `trim` does not touch the request in flight. -/
theorem trim_current (q : Queue) : q.trim.2.current = q.current := by
  unfold trim
  cases q.maxSize <;> rfl

/-- What `trim` does to a queue: the entries beyond the bound are dropped, and nothing else
    happens. -/
theorem flow_trim {q : Queue} (h : q.Valid) : Flow q [] none q.trim.1 q.trim.2 := by
  cases hmax : q.maxSize with
  | none =>
    simp only [trim, hmax]
    exact .refl h
  | some max =>
    simp only [trim, hmax]
    refine {
      valid := ⟨fun hidle => ?_, h.sources⟩
      conserved := ?_
      current := rfl
      alone := nofun }
    · rw [h.idle hidle]
      exact List.drop_nil
    -- what is dropped and what is left are the two parts of what waited
    · rw [List.perm_iff_count]
      intro id
      have hsplit := congrArg (List.count id ∘ idsOf)
        (List.take_append_drop (q.pending.length - max) q.pending)
      simp only [Function.comp_apply, idsOf_append, List.count_append] at hsplit
      simp only [kept, idsOf_append, List.count_append, List.nil_append, Option.toList_none,
        idsOf_nil]
      omega

/-- What a new bound does to a queue: `resize` drops the entries beyond it and names them in its
    answer. -/
theorem flow_resize {q : Queue} (h : q.Valid) (maxSize : Option Nat) :
    Flow q [] none (q.resize maxSize).1 (q.resize maxSize).2 := by
  have hflow := flow_trim (q := { q with maxSize }) ⟨h.idle, h.sources⟩
  exact ⟨hflow.valid, hflow.conserved, hflow.current, hflow.alone⟩

/-- What `cancelAll` does to a queue: everything that it keeps is dropped. -/
theorem flow_cancelAll (q : Queue) : Flow q [] none q.kept q.cancelAll.2 where
  valid := ⟨fun _ => rfl, List.nodup_nil⟩
  conserved := by simp [kept, cancelAll]
  current := rfl
  alone := nofun

/-! ### Taking in -/

/-- While the request `id` is in flight, `dequeue` hands nothing out. -/
theorem dequeue_of_busy {q : Queue} {id : RequestId} (h : q.current = some id) :
    q.dequeue = (none, q) := by
  simp only [dequeue, h]

/-- The entries that the bound `size` of a new entry drops, which `Queue.override` does not
    return. -/
def evictedBy (q : Queue) (size : Option Nat) : List Entry :=
  match size with
  | none => []
  | some n => (q.resize (some n)).1

/-- What the bound of a new entry does to a queue: it drops the entries that are `evictedBy` it. -/
theorem flow_override {q : Queue} (h : q.Valid) (size : Option Nat) :
    Flow q [] none (q.evictedBy size) (q.override size) := by
  cases size with
  | none => exact .refl h
  | some n => exact flow_resize h (some n)

end Queue

/-- The entry that is in flight now, if the admission put one there: a `dispatch` does. -/
def Admission.started : Admission → Option Entry
  | dispatch e => some e
  | _ => none

/-- The entries that were dropped for the one that was taken in: those beyond the bound for a
    `queued` one, the deferral that it replaced for a `deferred` one. -/
def Admission.dropped : Admission → List Entry
  | dispatch _ => []
  | queued evicted => evicted
  | deferred _ _ _ replaced => replaced.toList

namespace Queue

/-- An idle queue in order puts the entry `e` in flight at once, by `place`. -/
theorem place_of_idle {q : Queue} (h : q.Valid) (hcurrent : q.current = none) (e : Entry) :
    q.place e = (.dispatch e, { q with current := some e.id }) := by
  simp only [place, hcurrent, h.idle hcurrent, Option.isNone_none, List.isEmpty_nil,
    Bool.and_self, if_true]

/-- A busy queue lets the entry `e` wait behind the others, by `place`, and then drops what is
    beyond the bound. -/
theorem place_of_busy {q : Queue} {id : RequestId} (hcurrent : q.current = some id) (e : Entry) :
    q.place e = (.queued { q with pending := q.pending ++ [e] }.trim.1,
      { q with pending := q.pending ++ [e] }.trim.2) := by
  unfold place
  rw [if_neg (by simp [hcurrent])]
  -- `place` asks for the next entry at the end, which a busy queue does not give
  have hbusy := (trim_current { q with pending := q.pending ++ [e] }).trans hcurrent
  simp only [dequeue_of_busy hbusy]

/-- What `place` does to a queue: the entry is put in flight, or it waits and may drive others
    out. -/
theorem flow_place {q : Queue} (h : q.Valid) (e : Entry) :
    Flow q [e.id] (q.place e).1.started (q.place e).1.dropped (q.place e).2 := by
  cases hcurrent : q.current with
  | none =>
    rw [place_of_idle h hcurrent]
    exact {
      valid := ⟨nofun, h.sources⟩
      conserved := by simp [Admission.started, Admission.dropped, kept]
      current := rfl
      alone := fun _ => hcurrent }
  | some id =>
    -- the entry waits first, and then the bound is applied: two changes, one after the other
    rw [place_of_busy hcurrent]
    have hwaits : Flow q [e.id] none [] { q with pending := q.pending ++ [e] } := {
      valid := ⟨fun hidle => absurd (hcurrent.symm.trans hidle) nofun, h.sources⟩
      conserved := by
        rw [List.perm_iff_count]
        intro id
        simp only [kept, idsOf_append, idsOf_cons, idsOf_nil, List.count_append, Option.toList_none,
          List.count_nil]
        omega
      current := rfl
      alone := nofun }
    exact hwaits.trans (flow_trim hwaits.valid)

/-- The held entries are the one of `source`, if there is one, and those of the other sources. -/
theorem perm_held {q : Queue} (h : q.Valid) (source : String) :
    (idsOf (q.delayed.map (·.2.entry))).Perm
      (idsOf ((q.deferral? source).map Deferral.entry).toList ++
        idsOf ((q.delayed.filter (·.1 ≠ source)).map (·.2.entry))) := by
  have hrows := (perm_lookup_filter q.delayed source h.sources).map (·.2.entry.id)
  simp only [List.map_append, List.map_map] at hrows
  simp only [deferral?, idsOf, List.map_map]
  cases hlookup : q.delayed.lookup source <;> rw [hlookup] at hrows <;> exact hrows

/-- What `defer` does to a queue: the entry is held apart, and takes the place of the one that was
    held for its source. -/
theorem flow_defer {q : Queue} (h : q.Valid) (e : Entry) (delay : Nat) :
    Flow q [e.id] none (q.defer e delay).1.dropped (q.defer e delay).2 where
  valid := by
    refine ⟨h.idle, ?_⟩
    show ((q.delayed.filter (·.1 ≠ e.source) ++
      [(e.source, Deferral.mk (q.lastGeneration + 1) e)]).map Prod.fst).Nodup
    rw [List.map_append, List.nodup_append]
    -- the row of the source was taken out before the new one was put in
    refine ⟨h.sources.sublist (List.filter_sublist.map Prod.fst), by simp, ?_⟩
    intro source hsource _ hnew heq
    rw [List.map_singleton, List.mem_singleton] at hnew
    obtain ⟨row, hrow, rfl⟩ := List.mem_map.mp hsource
    have hother := (List.mem_filter.mp hrow).2
    rw [decide_eq_true_eq] at hother
    exact hother (heq.trans hnew)
  conserved := by
    have hheld := List.perm_iff_count.mp (perm_held h e.source)
    rw [List.perm_iff_count]
    intro id
    have hid := hheld id
    simp only [Admission.dropped, defer, kept, List.map_append, idsOf_append, List.count_append,
      List.map_cons, List.map_nil, idsOf_cons, idsOf_nil, Option.toList_none, List.count_nil]
      at hid ⊢
    omega
  current := rfl
  alone := nofun

/-- **Taking in.** What becomes of the entry `e` that is taken in, and of those that its own bound
    drops: `evictedBy` gives them, beside the ones that the answer names. -/
theorem flow_enqueue {q : Queue} (h : q.Valid) (e : Entry) :
    Flow q [e.id] (q.enqueue e).1.started (q.evictedBy e.queueSize ++ (q.enqueue e).1.dropped)
      (q.enqueue e).2 := by
  have hbound := flow_override h e.queueSize
  have hplaced := hbound.trans (flow_place hbound.valid { e with delay := none })
  unfold enqueue
  split
  · exact hbound.trans (flow_defer hbound.valid e _)
  · exact hplaced

/-! ### Giving out -/

/-- **Releasing.** An entry that was held apart is placed, if its deferral is the one that is held
    for `source` under the number `generation`; otherwise nothing happens. -/
theorem flow_release {q : Queue} (h : q.Valid) (source : String) (generation : Nat) :
    Flow q [] ((q.release source generation).1.bind Admission.started)
      ((q.release source generation).1.elim [] Admission.dropped)
      (q.release source generation).2 := by
  cases hheld : q.deferral? source with
  | none =>
    simp only [release, hheld]
    exact .refl h
  | some held =>
    -- the number decides: a timer of a deferral that was replaced since comes too late
    by_cases hgeneration : held.generation = generation
    · simp only [release, hheld, hgeneration, if_true]
      have hflow := flow_place
        (q := { q with delayed := q.delayed.filter (·.1 ≠ source) })
        ⟨h.idle, h.sources.sublist (List.filter_sublist.map Prod.fst)⟩
        { held.entry with delay := none }
      refine ⟨hflow.valid, .trans ?_ hflow.conserved, hflow.current, hflow.alone⟩
      have hrows := perm_held h source
      rw [hheld] at hrows
      simp only [kept, idsOf_append, List.nil_append]
      exact (hrows.append_left (idsOf q.pending)).trans List.perm_middle
    · simp only [release, hheld, hgeneration, if_false]
      exact .refl h

/-- At the end of the request `id` in flight the oldest waiting entry, the head of `pending`, takes
    its place, if there is one. -/
theorem complete_eq {q : Queue} {id : RequestId} (h : q.current = some id) :
    q.complete id = (q.pending.head?,
      { q with pending := q.pending.tail, current := q.pending.head?.map Entry.id }) := by
  simp only [complete, h, if_true, dequeue]
  cases hpending : q.pending with
  | nil => rfl
  | cons e rest => rfl

/-- **Completing.** What `complete` does to a queue, seen from where the request `id` has just ended
    and `current` is empty. -/
theorem flow_complete {q : Queue} {id : RequestId} (hid : q.current = some id)
    (hvalid : q.Valid) :
    Flow { q with current := none } [] (q.complete id).1 [] (q.complete id).2 := by
  rw [complete_eq hid]
  refine {
    valid := ⟨fun hidle => ?_, hvalid.sources⟩
    conserved := ?_
    current := (Option.or_none ..).symm
    alone := fun _ => rfl }
  · rw [Option.map_eq_none_iff, List.head?_eq_none_iff] at hidle
    exact congrArg List.tail hidle
  · simp only [kept]
    cases q.pending <;> simp

end Queue

end PagePatch
