import PagePatch.Engine.Timeline
import PagePatch.Proofs.Engine.Queueing

namespace PagePatch

/-!
# Delays

The delay of a deferral ends with an alarm. An alarm may come late, and by then its deferral may
have been replaced, released or cancelled.

* `Engine.orders` — what the queue is told along a run, and when;
* `Engine.Awaits` — the last deferral of a source along a run, as long as it was neither released
  nor cancelled;
* `held_iff_awaits`, `alarms_of_awaits` — the queue holds what awaits its alarm, and one alarm of
  it is on its way;
* `Engine.Punctual` — the alarms of a run come when they are due, as they do when the time of an
  engine passes (`punctual_runUntil`);
* `Debounced`, `debounced_run` — what the alarms of a run come to.
-/

variable {σ : Type}

/-! ### Deferrals along a run -/

/-- What a queue is told, and when. An `Order` keeps the queue that is told, as the numbers come
    from it. -/
structure Order where
  /-- What the queue is told. -/
  command : QueueCommand
  /-- The queue that is told, before it obeys. -/
  queue : Queue
  /-- The time at which it is told, as the clock of the engine has it. -/
  time : Nat

namespace Engine

/-- What the queue is told on the input `i`: one order at most. -/
def ordersOn (i : EngineInput) (s : EngineState σ) : List Order :=
  (s.queueCommand? i).toList.map fun c => ⟨c, s.queue, s.now⟩

/-- What the queue is told along the run on `is`, in order. -/
def orders (e : Engine σ) (is : List EngineInput) (s₀ : EngineState σ) : List Order :=
  e.collect ordersOn is s₀

/-- The last deferral of `source` along the run has the number `generation`, came with `entry` at
    `time`, and was neither released nor cancelled since. In other words, it is due an alarm. -/
def Awaits (e : Engine σ) (s₀ : EngineState σ) (is : List EngineInput) (source : String)
    (generation : Nat) (entry : Entry) (time : Nat) : Prop :=
  Since (fun o => o.command.Defers source generation entry o.queue ∧ o.time = time)
    (fun o => o.command.Revokes source generation o.queue) (e.orders is s₀)

end Engine

variable {e : Engine σ} {s₀ s : EngineState σ} {is : List EngineInput} {source : String}
  {generation time : Nat} {entry : Entry}

/-- With one more input `i` it is the last deferral of the source now, or it was before and is not
    revoked by `i`. -/
theorem awaits_snoc {i : EngineInput} :
    e.Awaits s₀ (is ++ [i]) source generation entry time ↔
      (∃ c, (e.run is s₀).queueCommand? i = some c ∧
        c.Defers source generation entry (e.run is s₀).queue ∧ (e.run is s₀).now = time) ∨
      (e.Awaits s₀ is source generation entry time ∧
        ∀ c, (e.run is s₀).queueCommand? i = some c →
          ¬ c.Revokes source generation (e.run is s₀).queue) := by
  unfold Engine.Awaits Engine.orders
  rw [Engine.collect_snoc, Engine.ordersOn]
  cases (e.run is s₀).queueCommand? i with
  | none => simp
  | some c =>
    rw [Option.toList_some, List.map_singleton, since_snoc]
    simp

/-- What a deferral comes with: the command `c`, the delay of `entry`, its source, and the next
    number. -/
theorem QueueCommand.Defers.eq {c : QueueCommand} {q : Queue} (hvalid : q.Valid)
    (h : c.Defers source generation entry q) :
    c = .enqueue entry ∧ entry.isDelayed = true ∧ entry.source = source ∧
      generation = q.lastGeneration + 1 := by
  obtain ⟨rfl, hanswer⟩ := h
  rw [(Queue.reschedules_obey hvalid _).answer, QueueCommand.held?] at hanswer
  cases hdelayed : entry.isDelayed with
  | false => simp [hdelayed] at hanswer
  | true =>
    simp only [hdelayed, if_true, Option.map_some, Option.some.injEq, Prod.mk.injEq] at hanswer
    exact ⟨rfl, rfl, hanswer.1, hanswer.2.symm⟩

/-- **What is held.** The queue holds what `Awaits` its alarm, and nothing else. -/
theorem held_iff_awaits (hvalid : s₀.queue.Valid) (hempty : s₀.queue.delayed = [])
    (is : List EngineInput) (source : String) (generation : Nat) (entry : Entry) :
    (e.run is s₀).queue.deferral? source = some ⟨generation, entry⟩ ↔
      ∃ time, e.Awaits s₀ is source generation entry time := by
  induction is using List.reverseRecOn with
  | nil => simp [Engine.Awaits, Engine.orders, Engine.collect, Engine.run, not_since_nil,
      Queue.deferral?, hempty]
  | append_singleton is i ih =>
    have hrun : e.run (is ++ [i]) s₀ = e.step i (e.run is s₀) := e.run_append is [i] s₀
    simp only [awaits_snoc, hrun, (acts_step e (e.run is s₀) i).queue]
    cases (e.run is s₀).queueCommand? i with
    | none => simp [ih]
    | some c =>
      simp only [Option.elim_some, Queue.deferral?_obey_iff (valid_run hvalid is), ih]
      simp [exists_or]

/-! ### Alarms along a run -/

/-- A row of the held entries is what `deferral?` finds for its source, as no source has two of
    them. -/
theorem deferral?_of_mem {q : Queue} (hvalid : q.Valid) {row : String × Deferral}
    (hrow : row ∈ q.delayed) : q.deferral? row.1 = some row.2 := by
  rcases List.mem_append.mp ((perm_lookup_filter q.delayed row.1 hvalid.sources).mem_iff.mp hrow)
    with hfound | hother
  · obtain ⟨held, hheld, heq⟩ := List.mem_map.mp hfound
    rw [Queue.deferral?, Option.mem_toList.mp hheld, ← heq]
  · simp at hother

/-- A `generation` that is not held any more is the number of no row under its source. -/
theorem ne_of_stale {q : Queue} (hvalid : q.Valid)
    (hstale : ¬ (q.release source generation).1.isSome) {row : String × Deferral}
    (hrow : row ∈ q.delayed) : (row.1, row.2.generation) ≠ (source, generation) := by
  rintro heq
  obtain ⟨rfl, rfl⟩ := Prod.mk.inj heq
  exact hstale (Queue.isSome_release_iff.mpr ⟨row.2.entry, deferral?_of_mem hvalid hrow⟩)

/-- The timers that the held entries of `q` should have: their sources and numbers. -/
def Queue.timetable (q : Queue) : List (String × Nat) :=
  q.delayed.map fun row => (row.1, row.2.generation)

/-- **In step.** When the timers are those of the held entries, they are so after the queue was told
    `c`. -/
theorem timersAfter_timetable (hvalid : s.queue.Valid) (htimers : s.timers = s.queue.timetable)
    (c : QueueCommand) : s.timersAfter (some c) = (s.queue.obey c).2.timetable := by
  rw [Queue.timetable, (Queue.reschedules_obey hvalid c).delayed]
  unfold Queue.timetable at htimers
  -- timers and table lose and gain their rows by the same source; only a release goes by the number
  -- as well
  cases c with
  | enqueue new =>
    cases hnew : new.isDelayed with
    | false => simp [EngineState.timersAfter, Queue.heldAfter, hnew, htimers]
    | true =>
      simp only [EngineState.timersAfter, Queue.heldAfter, hnew, if_true, htimers, List.filter_map,
        List.map_append]
      rfl
  | release other number =>
    simp only [EngineState.timersAfter, Queue.heldAfter, htimers, List.filter_map]
    split
    · next hreleased =>
      obtain ⟨held, hheld⟩ := Queue.isSome_release_iff.mp hreleased
      refine congrArg _ (List.filter_congr fun row hrow => ?_)
      -- the row of the source is the one that is released
      have hsame : row.1 = other → row.2.generation = number := by
        rintro rfl
        have hfound := (deferral?_of_mem hvalid hrow).symm.trans hheld
        rw [Option.some.inj hfound]
      simp only [Function.comp_apply, decide_eq_decide, ne_eq, Prod.mk.injEq, not_and]
      exact ⟨fun h heq => h heq (hsame heq), fun h heq => absurd heq h⟩
    · next hstale =>
      refine congrArg _ (List.filter_eq_self.mpr fun row hrow => ?_)
      exact decide_eq_true (ne_of_stale hvalid hstale hrow)
  | cancelAll => rfl
  | _ => exact htimers

/-- No alarm has a number that is still to be given, also after the queue was told `c`. -/
theorem numbered_alarmsAfter (hvalid : s.queue.Valid)
    (hnumbered : ∀ a ∈ s.alarms, a.generation ≤ s.queue.lastGeneration) (c : QueueCommand) :
    ∀ a ∈ s.alarmsAfter (some c), a.generation ≤ (s.queue.obey c).2.lastGeneration := by
  intro a ha
  rw [(Queue.reschedules_obey hvalid c).lastGeneration]
  have hold : a ∈ s.alarms → a.generation ≤ s.queue.lastGeneration + c.held?.toList.length :=
    fun hmem => (hnumbered a hmem).trans (Nat.le_add_right _ _)
  cases c with
  | enqueue new =>
    cases hnew : new.isDelayed with
    | false =>
      rw [EngineState.alarmsAfter, hnew, if_neg Bool.false_ne_true] at ha
      exact hold ha
    | true =>
      rw [EngineState.alarmsAfter, hnew, if_pos rfl] at ha
      rcases List.mem_append.mp ha with hmem | hmem
      · exact hold hmem
      · rw [List.mem_singleton.mp hmem, QueueCommand.held?, hnew]
        exact Nat.le_refl _
  | release other number => exact hold (List.mem_of_mem_filter ha)
  | _ => exact hold ha

/-- The timers of `s` are those of the held entries, and no alarm has a number that is still to be
    given. This is the invariant that all about alarms rests on. -/
structure Timed (s : EngineState σ) : Prop where
  /-- The queue is in order, so no source has two held entries. -/
  queue : s.queue.Valid
  /-- The timers and the held entries have the same sources and the same numbers. -/
  timers : s.timers = s.queue.timetable
  /-- Every alarm is that of a deferral, be it held still or gone. -/
  numbered : ∀ a ∈ s.alarms, a.generation ≤ s.queue.lastGeneration

/-- The invariant `Timed` holds after every input. -/
theorem timed_step (h : Timed s) (i : EngineInput) : Timed (e.step i s) := by
  obtain ⟨hqueue, htimers, halarms, -, -⟩ := acts_step e s i
  cases hcommand : s.queueCommand? i with
  | none =>
    rw [hcommand] at hqueue htimers halarms
    refine ⟨hqueue ▸ h.queue, ?_, ?_⟩
    · rw [htimers, hqueue]
      exact h.timers
    · rw [halarms, hqueue]
      exact h.numbered
  | some c =>
    rw [hcommand] at hqueue htimers halarms
    rw [Option.elim_some] at hqueue
    refine ⟨hqueue ▸ (Queue.turnover_obey h.queue c).valid, ?_, ?_⟩
    · rw [htimers, hqueue]
      exact timersAfter_timetable h.queue h.timers c
    · rw [halarms, hqueue]
      exact numbered_alarmsAfter h.queue h.numbered c

/-- The invariant `Timed` holds in every state of a run. -/
theorem timed_run (h : Timed s₀) (is : List EngineInput) : Timed (e.run is s₀) := by
  induction is generalizing s₀ with
  | nil => exact h
  | cons i is ih => exact ih (timed_step h i)

/-- The alarms among others that belong to the deferral of `source` under `generation`. -/
def alarmsOf (alarms : List Alarm) (source : String) (generation : Nat) : List Alarm :=
  alarms.filter fun a => (a.source, a.generation) = (source, generation)

/-- A new deferral has one alarm, due when the delay of `entry` has passed. -/
theorem alarmsAfter_of_defers (h : Timed s) {c : QueueCommand}
    (hdefers : c.Defers source generation entry s.queue) :
    alarmsOf (s.alarmsAfter (some c)) source generation =
      [{ source, generation, due := s.now + entry.delay.getD 0 }] := by
  obtain ⟨rfl, hdelayed, rfl, rfl⟩ := hdefers.eq h.queue
  -- its number is greater than those of the alarms before it
  have hothers : alarmsOf s.alarms entry.source (s.queue.lastGeneration + 1) = [] := by
    refine List.filter_eq_nil_iff.mpr fun a ha heq => ?_
    have hnumber := h.numbered a ha
    have hsame := (Prod.mk.inj (of_decide_eq_true heq)).2
    omega
  unfold alarmsOf at hothers ⊢
  rw [EngineState.alarmsAfter, hdelayed, if_pos rfl, List.filter_append, hothers]
  simp

/-- The alarm `a` of what is held stays on its way as long as the command `c` does not revoke the
    deferral. -/
theorem alarmsAfter_of_kept (h : Timed s) {c : QueueCommand} {a : Alarm}
    (hheld : s.queue.deferral? source = some ⟨generation, entry⟩)
    (hkept : ¬ c.Revokes source generation s.queue)
    (hone : alarmsOf s.alarms source generation = [a]) :
    alarmsOf (s.alarmsAfter (some c)) source generation = [a] := by
  unfold alarmsOf at hone ⊢
  cases c with
  | enqueue new =>
    cases hnew : new.isDelayed with
    | false =>
      rw [EngineState.alarmsAfter, hnew, if_neg Bool.false_ne_true]
      exact hone
    | true =>
      have ha : a ∈ s.alarms.filter _ := hone ▸ List.mem_singleton_self a
      have hnumber := h.numbered a (List.mem_of_mem_filter ha)
      have hsame := (Prod.mk.inj (of_decide_eq_true (List.mem_filter.mp ha).2)).2
      -- the new alarm has a greater number than the one that is kept
      have hother : s.queue.lastGeneration + 1 ≠ generation := by omega
      rw [EngineState.alarmsAfter, hnew, if_pos rfl, List.filter_append, hone]
      simp [hother]
  | release other number =>
    rw [EngineState.alarmsAfter, List.filter_filter, ← hone]
    refine List.filter_congr fun b _ => ?_
    -- the alarm that has come is that of another deferral, or else this one would be released
    have hother : (source, generation) ≠ (other, number) := by
      rintro heq
      obtain ⟨rfl, rfl⟩ := Prod.mk.inj heq
      exact hkept (.inr (.inl ⟨rfl, Queue.isSome_release_iff.mpr ⟨entry, hheld⟩⟩))
    by_cases hb : (b.source, b.generation) = (source, generation)
    · simp only [hb, decide_true, Bool.true_and]
      exact decide_eq_true hother
    · simp only [hb, decide_false, Bool.false_and]
  | _ => exact hone

/-- **One alarm.** Of what `Awaits` its alarm one alarm is on its way, and it is due when its own
    delay has passed since the `time` it was taken in. -/
theorem alarms_of_awaits (h : Timed s₀) (hempty : s₀.queue.delayed = [])
    (hawaits : e.Awaits s₀ is source generation entry time) :
    alarmsOf (e.run is s₀).alarms source generation =
      [{ source, generation, due := time + entry.delay.getD 0 }] := by
  induction is using List.reverseRecOn with
  | nil => exact absurd hawaits not_since_nil
  | append_singleton is i ih =>
    have hrun : e.run (is ++ [i]) s₀ = e.step i (e.run is s₀) := e.run_append is [i] s₀
    have htimed := timed_run (e := e) h is
    rw [hrun, (acts_step e (e.run is s₀) i).alarms]
    -- the deferral is new, or it was there before and this input leaves it alone
    rcases awaits_snoc.mp hawaits with ⟨c, hcommand, hdefers, rfl⟩ | ⟨hbefore, hkept⟩
    · rw [hcommand]
      exact alarmsAfter_of_defers htimed hdefers
    · cases hcommand : (e.run is s₀).queueCommand? i with
      | none => exact ih hbefore
      | some c =>
        have hheld := (held_iff_awaits h.queue hempty is source generation entry).mpr ⟨_, hbefore⟩
        exact alarmsAfter_of_kept htimed hheld (hkept c hcommand) (ih hbefore)

/-! ### What is gone -/

/-- Numbers only grow, so no order `o` of a run met a queue that had given more of them than the
    last one. -/
theorem lastGeneration_le_of_mem (hvalid : s₀.queue.Valid) {o : Order}
    (ho : o ∈ e.orders is s₀) :
    o.queue.lastGeneration ≤ (e.run is s₀).queue.lastGeneration := by
  induction is using List.reverseRecOn with
  | nil => cases ho
  | append_singleton is i ih =>
    have hrun : e.run (is ++ [i]) s₀ = e.step i (e.run is s₀) := e.run_append is [i] s₀
    rw [Engine.orders, Engine.collect_snoc, List.mem_append, Engine.ordersOn] at ho
    rw [hrun, (acts_step e (e.run is s₀) i).queue]
    cases hcommand : (e.run is s₀).queueCommand? i with
    | none =>
      rw [hcommand] at ho
      exact ih (ho.resolve_right nofun)
    | some c =>
      rw [hcommand] at ho
      rw [Option.elim_some, (Queue.reschedules_obey (valid_run hvalid is) c).lastGeneration]
      rcases ho with ho | ho
      · exact (ih ho).trans (Nat.le_add_right _ _)
      · rw [List.mem_singleton.mp ho]
        exact Nat.le_add_right _ _

/-- **Gone for good.** What was revoked by an order `o` of the run does not await its alarm again,
    as its number is not given twice. -/
theorem not_awaits_of_revoked (hvalid : s₀.queue.Valid) {o : Order} (ho : o ∈ e.orders is s₀)
    (hnumber : generation ≤ o.queue.lastGeneration)
    (hrevoked : o.command.Revokes source generation o.queue) :
    ¬ e.Awaits s₀ is source generation entry time := by
  induction is using List.reverseRecOn with
  | nil => cases ho
  | append_singleton is i ih =>
    rw [Engine.orders, Engine.collect_snoc, List.mem_append, Engine.ordersOn] at ho
    -- a deferral on the last input has a number that is greater than all before it
    have hnew : ∀ c : QueueCommand, o.queue.lastGeneration ≤ (e.run is s₀).queue.lastGeneration →
        ¬ c.Defers source generation entry (e.run is s₀).queue := by
      intro c hle hdefers
      obtain ⟨-, -, -, rfl⟩ := hdefers.eq (valid_run hvalid is)
      omega
    rw [awaits_snoc]
    rcases ho with ho | ho
    · rintro (⟨c, -, hdefers, -⟩ | ⟨hbefore, -⟩)
      · exact hnew c (lastGeneration_le_of_mem hvalid ho) hdefers
      · exact ih ho hbefore
    · obtain ⟨c, hcommand, rfl⟩ := List.mem_map.mp ho
      rintro (⟨c', -, hdefers, -⟩ | ⟨-, hkept⟩)
      · exact hnew c' (Nat.le_refl _) hdefers
      · exact hkept c (Option.mem_toList.mp hcommand) hrevoked

/-! ### What alarms come to -/

/-- An engine that was shut down holds nothing in `delayed`, and takes nothing in any more. -/
theorem delayed_of_closed (e : Engine σ) (page : σ) (server : Server) (is : List EngineInput)
    (hclosed : (e.run is (e.initial page server)).closed = true) :
    (e.run is (e.initial page server)).queue.delayed = [] := by
  induction is using List.reverseRecOn with
  | nil => rfl
  | append_singleton is i ih =>
    rw [Engine.run_append] at hclosed ⊢
    cases hbefore : (e.run is (e.initial page server)).closed with
    | true =>
      show (e.step i _).queue.delayed = []
      rw [(step_of_closed e hbefore i).2.1]
      exact ih hbefore
    | false =>
      have hs := steady_run e is (steady_initial e page server) hbefore
      by_cases hstop : i = .command .shutdown
      · subst hstop
        show (e.step (.command .shutdown) _).queue.delayed = []
        simp [Engine.step, hbefore, Engine.obey, Queue.cancelAll]
      · exact absurd ((steady_step e hs hstop).running.symm.trans hclosed) Bool.false_ne_true

/-- The alarm of the held `entry` has come: the queue admits it, without its delay. -/
theorem admits_alarm (e : Engine σ) (hopen : s.closed = false) (hvalid : s.queue.Valid)
    (hheld : s.queue.deferral? source = some ⟨generation, entry⟩) :
    Queue.Admits s.queue source { entry with delay := none }
      (s.queue.release source generation).1 (e.step (.alarm source generation) s).queue := by
  have hcommand : s.queueCommand? (.alarm source generation) =
      some (.release source generation) := by
    rw [EngineState.queueCommand?, hopen]
    rfl
  rw [(acts_step e s _).queue, hcommand]
  exact Queue.admits_release hvalid hheld

/-- If the queue is idle when the alarm comes, `entry` is sent at once, with the token that `s` has
    remembered by then. -/
theorem flight_alarm (e : Engine σ) (hopen : s.closed = false) (hvalid : s.queue.Valid)
    (hheld : s.queue.deferral? source = some ⟨generation, entry⟩)
    (hidle : s.queue.current = none) :
    (e.step (.alarm source generation) s).flight =
      some ({ entry with delay := none }.carrying s.viewState) := by
  obtain ⟨hdispatched, -, -⟩ := (Queue.admits_release hvalid hheld).idle hidle
  simp only [Engine.step, hopen, Bool.false_eq_true, if_false, Engine.takeAlarm]
  rcases hrelease : s.queue.release source generation with ⟨a, q'⟩
  rw [hrelease] at hdispatched
  subst hdispatched
  rfl

/-- Any other alarm is used up and changes nothing else: no request, no timer, not the page, only
    the `alarms`. -/
theorem step_of_stale (e : Engine σ) (h : Timed s)
    (hstale : ¬ (s.queue.release source generation).1.isSome) :
    ∃ alarms, alarms.Sublist s.alarms ∧
      e.step (.alarm source generation) s = { s with alarms } := by
  rcases Bool.eq_false_or_eq_true s.closed with hclosed | hclosed
  · exact ⟨s.alarms, .refl _, if_pos hclosed⟩
  · have hrelease := Queue.release_of_not_isSome hstale
    have htimers : s.timers.filter (· ≠ (source, generation)) = s.timers := by
      rw [h.timers, List.filter_eq_self]
      intro timer htimer
      obtain ⟨row, hrow, rfl⟩ := List.mem_map.mp htimer
      exact decide_eq_true (ne_of_stale h.queue hstale hrow)
    refine ⟨s.alarms.filter fun a => (a.source, a.generation) ≠ (source, generation),
      List.filter_sublist, ?_⟩
    simp only [Engine.step, hclosed, Bool.false_eq_true, if_false, Engine.takeAlarm, hrelease,
      htimers]

/-- The numbers that are `released` along a run are those that its queue releases, which connects
    the run of the engine with that of the queue. -/
theorem released_orders (e : Engine σ) (is : List EngineInput) (s : EngineState σ) :
    (e.orders is s).flatMap (fun o => o.command.released o.queue) =
      s.queue.releasedIn (e.commandsIn is s) := by
  rw [Queue.releasedIn, Engine.gather_commandsIn, Engine.orders,
    Engine.collect_hom e (List.flatMap fun o : Order => o.command.released o.queue) rfl
      fun _ _ => List.flatMap_append]
  simp only [Engine.ordersOn, List.flatMap_map]

/-! ### Alarms that come when they are due -/

/-- The input `i` is on time in `s`: if it is an alarm, this alarm is on its way and its time has
    come. -/
def EngineState.OnTime (s : EngineState σ) (i : EngineInput) : Prop :=
  ∀ source generation, i = .alarm source generation →
    ∃ a ∈ alarmsOf s.alarms source generation, a.due ≤ s.now

/-- Every alarm of the run is `OnTime`: it comes when it is due, or later, but not before. -/
def Engine.Punctual (e : Engine σ) : List EngineInput → EngineState σ → Prop
  | [], _ => True
  | i :: is, s => s.OnTime i ∧ e.Punctual is (e.step i s)

/-- A punctual run `is` and then another one `js` are a punctual run together. -/
theorem punctual_append {is js : List EngineInput} {s : EngineState σ} :
    e.Punctual (is ++ js) s ↔ e.Punctual is s ∧ e.Punctual js (e.run is s) := by
  induction is generalizing s with
  | nil => exact (and_iff_right trivial).symm
  | cons i is ih =>
    show (_ ∧ e.Punctual (is ++ js) (e.step i s)) ↔ _
    rw [ih, ← and_assoc]
    rfl

/-- The alarm that `firstAlarm?` picks is one of those on the way. -/
theorem mem_of_firstAlarm? {s : EngineState σ} {a : Alarm} (h : s.firstAlarm? = some a) :
    a ∈ s.alarms := by
  unfold EngineState.firstAlarm? at h
  refine List.foldlRecOn (motive := fun first => ∀ b, first = some b → b ∈ s.alarms)
    s.alarms _ (fun b hb => by cases hb) ?_ a h
  intro first hfirst c hc b hb
  -- of `first`, the one that came first so far, and `c` one goes on
  cases first with
  | none =>
    cases hb
    exact hc
  | some first =>
    simp only at hb
    split at hb
    · cases hb
      exact hc
    · exact hfirst b hb

/-- What becomes due next at the time `t` is on time once it is `t`. -/
theorem onTime_of_nextInput? {t : Nat} {i : EngineInput} (h : s.nextInput? = some (t, i)) :
    (e.step (.wait (t - s.now)) s).OnTime i := by
  rintro source generation rfl
  have halarm : s.firstAlarm?.map (fun a =>
      (max s.now a.due, EngineInput.alarm a.source a.generation)) =
        some (t, .alarm source generation) := by
    unfold EngineState.nextInput? at h
    cases hsignal : s.inFlight.bind (·.handle.due? s.now) with
    | none => simpa [hsignal] using h
    | some due =>
      -- of a signal and an alarm the one that is due first comes, and here that is the alarm
      cases hfirst : s.firstAlarm? with
      | none => simp [hsignal, hfirst] at h
      | some a =>
        simp only [hsignal, hfirst, Option.map_some] at h ⊢
        split at h
        · exact h
        · simp at h
  obtain ⟨a, ha, heq⟩ := Option.map_eq_some_iff.mp halarm
  obtain ⟨rfl, hinput⟩ := Prod.mk.inj heq
  obtain ⟨rfl, rfl⟩ := EngineInput.alarm.inj hinput
  refine ⟨a, List.mem_filter.mpr ⟨mem_of_firstAlarm? ha, decide_eq_true rfl⟩, ?_⟩
  show a.due ≤ s.now + (max s.now a.due - s.now)
  omega

/-- What an engine does by itself until the time `limit` is a punctual run. -/
theorem punctual_runDue (e : Engine σ) (limit n : Nat) (s : EngineState σ) :
    ∃ is, e.runDue limit n s = e.run is s ∧ e.Punctual is s := by
  induction n generalizing s with
  | zero => exact ⟨[], rfl, trivial⟩
  | succ n ih =>
    rw [Engine.runDue]
    cases hnext : s.nextInput? with
    | none => exact ⟨[], rfl, trivial⟩
    | some next =>
      obtain ⟨t, i⟩ := next
      simp only
      split
      · exact ⟨[], rfl, trivial⟩
      · obtain ⟨is, hrun, hpunctual⟩ := ih (e.step i (e.step (.wait (t - s.now)) s))
        exact ⟨.wait (t - s.now) :: i :: is, hrun, nofun, onTime_of_nextInput? hnext, hpunctual⟩

/-- **Time is punctual.** However long the time of an engine passes, what `runUntil` does meanwhile
    is a run on which alarms come when they are due. -/
theorem punctual_runUntil (e : Engine σ) (limit : Nat) (s : EngineState σ) :
    ∃ is, e.runUntil limit s = e.run is s ∧ e.Punctual is s := by
  have hwait : ∀ (s : EngineState σ) ms, e.Punctual [.wait ms] s := fun s ms => ⟨nofun, trivial⟩
  unfold Engine.runUntil
  by_cases hclosed : s.closed = true
  · rw [if_pos hclosed]
    exact ⟨[_], rfl, hwait s _⟩
  · rw [if_neg hclosed]
    obtain ⟨is, hrun, hpunctual⟩ := punctual_runDue e limit s.load s
    refine ⟨is ++ [.wait (limit - (e.run is s).now)], ?_, ?_⟩
    · rw [hrun, Engine.run_append]
      rfl
    · exact punctual_append.mpr ⟨hpunctual, hwait _ _⟩

/-- The queue is told to release something only on an `alarm`. -/
theorem eq_alarm_of_queueCommand? {i : EngineInput}
    (h : s.queueCommand? i = some (.release source generation)) : i = .alarm source generation := by
  unfold EngineState.queueCommand? at h
  cases hclosed : s.closed with
  | true => simp [hclosed] at h
  | false =>
    rw [hclosed, if_neg Bool.false_ne_true] at h
    cases i with
    | alarm other number =>
      obtain ⟨rfl, rfl⟩ := QueueCommand.release.inj (Option.some.inj h)
      rfl
    | command c => cases c <;> cases h
    | signal => simp at h
    | _ => cases h

/-- **No admission too early.** On a `Punctual` run, whatever is released was deferred under the
    number that it is released under, and its own delay has passed since. -/
theorem waits_of_punctual (h : Timed s₀) (hempty : s₀.queue.delayed = [])
    (hpunctual : e.Punctual is s₀) {o : Order} (ho : o ∈ e.orders is s₀)
    (hreleased : generation ∈ o.command.released o.queue) :
    ∃ source entry, o.command = .release source generation ∧
      o.queue.deferral? source = some ⟨generation, entry⟩ ∧
      ∃ o' ∈ e.orders is s₀, o'.command.Defers source generation entry o'.queue ∧
        o'.time + entry.delay.getD 0 ≤ o.time := by
  obtain ⟨before, i, rest, rfl, hi⟩ := Engine.mem_collect.mp ho
  obtain ⟨c, hc, rfl⟩ := List.mem_map.mp hi
  have hcommand := Option.mem_toList.mp hc
  -- of the commands only a release releases something, and it comes with an alarm
  obtain ⟨source, rfl, hsome⟩ := QueueCommand.mem_released.mp hreleased
  obtain rfl := eq_alarm_of_queueCommand? hcommand
  obtain ⟨entry, hheld⟩ := Queue.isSome_release_iff.mp hsome
  obtain ⟨time, hawaits⟩ :=
    (held_iff_awaits h.queue hempty before source generation entry).mp hheld
  refine ⟨source, entry, rfl, hheld, ?_⟩
  -- the deferral that awaits its alarm was an order of the run before it
  obtain ⟨earlier, o', later, horders, ⟨hdefers, rfl⟩, -⟩ := id hawaits
  have ho' : o' ∈ e.orders before s₀ := by
    rw [horders]
    exact List.mem_append_right _ List.mem_cons_self
  obtain ⟨before', j, rest', rfl, hj⟩ := Engine.mem_collect.mp ho'
  refine ⟨o', Engine.mem_collect.mpr ⟨before', j, _, List.append_assoc .., hj⟩, hdefers, ?_⟩
  -- its one alarm is due when its delay has passed, and the alarm has not come before that
  obtain ⟨a, ha, hdue⟩ := (punctual_append.mp hpunctual).2.1 source generation rfl
  rw [alarms_of_awaits h hempty hawaits, List.mem_singleton] at ha
  rw [ha] at hdue
  exact hdue

/-- What is promised of the alarms after the run on `is` that began in `s₀`. -/
structure Debounced (e : Engine σ) (s₀ : EngineState σ) (is : List EngineInput) : Prop where
  /-- The timers and the held entries have the same sources and the same numbers. -/
  timers : (e.run is s₀).timers = (e.run is s₀).queue.timetable
  /-- No source has two timers. -/
  sources : ((e.run is s₀).timers.map Prod.fst).Nodup
  /-- What is held is what awaits its alarm. -/
  held_iff : ∀ source generation entry,
    (e.run is s₀).queue.deferral? source = some ⟨generation, entry⟩ ↔
      ∃ time, e.Awaits s₀ is source generation entry time
  /-- One alarm of it is on its way, and is due when its own delay has passed since it was taken
      in. -/
  alarm : ∀ source generation entry time, e.Awaits s₀ is source generation entry time →
    alarmsOf (e.run is s₀).alarms source generation =
      [{ source, generation, due := time + entry.delay.getD 0 }]
  /-- So when all alarms of the run came when they were due, nothing was released before its own
      delay had passed since it was taken in: the order `o` that released it came at that time or
      later, counted from the order `o'` that deferred it under the same number. -/
  waits : e.Punctual is s₀ → ∀ o ∈ e.orders is s₀, ∀ generation ∈ o.command.released o.queue,
    ∃ source entry, o.command = .release source generation ∧
      o.queue.deferral? source = some ⟨generation, entry⟩ ∧
      ∃ o' ∈ e.orders is s₀, o'.command.Defers source generation entry o'.queue ∧
        o'.time + entry.delay.getD 0 ≤ o.time
  /-- When its alarm comes, it is admitted without its delay. -/
  admits : ∀ source generation entry time, e.Awaits s₀ is source generation entry time →
    Queue.Admits (e.run is s₀).queue source { entry with delay := none }
      ((e.run is s₀).queue.release source generation).1
      (e.step (.alarm source generation) (e.run is s₀)).queue
  /-- If the queue is idle, it is sent at once. -/
  sends : ∀ source generation entry time, e.Awaits s₀ is source generation entry time →
    (e.run is s₀).queue.current = none →
      (e.step (.alarm source generation) (e.run is s₀)).flight =
        some ({ entry with delay := none }.carrying (e.run is s₀).viewState)
  /-- No number is released twice. -/
  once : ((e.orders is s₀).flatMap fun o => o.command.released o.queue).Nodup
  /-- What was replaced, released or cancelled does not await an alarm again. -/
  gone : ∀ o ∈ e.orders is s₀, ∀ source generation, generation ≤ o.queue.lastGeneration →
    o.command.Revokes source generation o.queue → ∀ entry time,
      ¬ e.Awaits s₀ is source generation entry time
  /-- An alarm that nothing awaits changes nothing, but is not on its way any more. -/
  stale : ∀ source generation, (¬ ∃ entry time, e.Awaits s₀ is source generation entry time) →
    ∃ alarms, alarms.Sublist (e.run is s₀).alarms ∧
      e.step (.alarm source generation) (e.run is s₀) = { e.run is s₀ with alarms }

/-- **No alarm too many.** Whatever an engine is told by `is`, and whenever alarms come: what its
    queue holds awaits one alarm and is admitted once, after its own delay and not after it was
    replaced or cancelled, and any other alarm changes nothing. -/
theorem debounced_run (e : Engine σ) (page : σ) (server : Server) (is : List EngineInput) :
    Debounced e (e.initial page server) is := by
  have hinitial : Timed (e.initial page server) :=
    ⟨Queue.valid_new e.config.queueSize, rfl, nofun⟩
  have htimed : Timed (e.run is (e.initial page server)) := timed_run hinitial is
  have hheld := held_iff_awaits (e := e) hinitial.queue rfl is
  -- what is held shows that the engine was not shut down
  have hopen : ∀ {source d}, (e.run is (e.initial page server)).queue.deferral? source = some d →
      (e.run is (e.initial page server)).closed = false := by
    intro source d hsome
    refine Bool.eq_false_iff.mpr fun hclosed => ?_
    rw [Queue.deferral?, delayed_of_closed e page server is hclosed] at hsome
    cases hsome
  refine {
    timers := htimed.timers
    sources := ?_
    held_iff := hheld
    alarm := fun source generation entry time hawaits => alarms_of_awaits hinitial rfl hawaits
    waits := fun hpunctual o ho generation hreleased =>
      waits_of_punctual hinitial rfl hpunctual ho hreleased
    admits := fun source generation entry time hawaits => ?_
    sends := fun source generation entry time hawaits => ?_
    once := ?_
    gone := fun o ho source generation hnumber hrevoked entry time =>
      not_awaits_of_revoked hinitial.queue ho hnumber hrevoked
    stale := fun source generation hnone => step_of_stale e htimed fun hsome => ?_ }
  · rw [htimed.timers, Queue.timetable, List.map_map]
    exact htimed.queue.sources
  · have hsome := (hheld source generation entry).mpr ⟨time, hawaits⟩
    exact admits_alarm e (hopen hsome) htimed.queue hsome
  · have hsome := (hheld source generation entry).mpr ⟨time, hawaits⟩
    exact flight_alarm e (hopen hsome) htimed.queue hsome
  · rw [released_orders]
    exact Queue.nodup_releasedIn e.config.queueSize _
  · obtain ⟨entry, hsome⟩ := Queue.isSome_release_iff.mp hsome
    obtain ⟨time, hawaits⟩ := (hheld source generation entry).mp hsome
    exact hnone ⟨entry, time, hawaits⟩

/-- The alarm of the first deferral comes after everything was cancelled and another request of the
    same source is held. That one is sent when its own alarm comes. -/
example :
    let deferred (n : Nat) : EngineInput :=
      .command (.enqueue { Recorder.entry ⟨n⟩ "a" with delay := some 5 })
    let is := [deferred 1, .wait 5, .command .cancelAll, deferred 2, .alarm "a" 1]
    let s := Recorder.after {} is
    s.timers = [("a", 2)] ∧ s.alarms = [⟨"a", 2, 10⟩] ∧ s.history = [] ∧
      (requestsOf (Recorder.after {} (is ++ [.wait 5, .alarm "a" 2])).history).map Request.id =
        [⟨2⟩] :=
  ⟨rfl, rfl, rfl, rfl⟩

end PagePatch
