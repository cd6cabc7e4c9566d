import Mathlib.Algebra.GroupWithZero.Nat
import PagePatch.Proofs.Queue.Run

namespace PagePatch

/-!
# What a queue reports of its entries

An entry leaves a queue when it is handed out to be sent or when it is dropped, and the queue
answers which entries these are. There is one exception: what the bound of a new entry drives out is
told to nobody.

* `Queue.startedIn`, `Queue.reportedIn`, `Queue.unreportedIn` — the entries that leave a queue along
  a run;
* `Queue.perm_run` — every entry that was taken in is kept or has left;
* `accounted_run` — the books of a run, and when they balance without the entries nobody was told
  of.
-/

namespace Queue

/-- The entries that are handed out to be sent along the run `cs`. -/
def startedIn (q : Queue) (cs : List QueueCommand) : List Entry :=
  gather (fun c q => (q.obey c).1.started.toList) q cs

/-- The entries that the answers along the run `cs` report as dropped, one by one or by their
    number. -/
def reportedIn (q : Queue) (cs : List QueueCommand) : List Entry :=
  gather (fun c q => (q.obey c).1.reported ++ c.cancelled q) q cs

/-- The entries that are dropped along the run `cs` and that no answer tells of. -/
def unreportedIn (q : Queue) (cs : List QueueCommand) : List Entry :=
  gather QueueCommand.unreported q cs

/-- How many entries the answers of the run `cs` report as dropped, as somebody who hears nothing
    but the answers would add them up. -/
def toldIn (q : Queue) (cs : List QueueCommand) : Nat :=
  (gather (fun c q => [(q.obey c).1.reported.length + (q.obey c).1.counted]) q cs).sum

/-- The number that the answer to `c` gives is the number of the entries that were `cancelled`,
    dropped all at once. -/
theorem counted_obey (q : Queue) (c : QueueCommand) :
    (q.obey c).1.counted = (c.cancelled q).length := by
  cases c with
  | cancelAll => simp [obey, QueueAnswer.counted, cancelAll, QueueCommand.cancelled, kept]
  | _ => rfl

/-- The answers tell the number of the entries in `reportedIn`, neither more nor less. -/
theorem toldIn_eq (q : Queue) (cs : List QueueCommand) :
    q.toldIn cs = (q.reportedIn cs).length := by
  simp only [toldIn, reportedIn, counted_obey]
  induction cs generalizing q with
  | nil => rfl
  | cons c cs ih =>
    simp only [gather, List.sum_append, List.sum_singleton, List.length_append, ih]

/-- **Conservation.** The entries that a queue in order `kept` and those that it takes in along the
    run `cs` are handed out, kept, reported as dropped, or dropped without a report. -/
theorem perm_run {q : Queue} (h : q.Valid) (cs : List QueueCommand) :
    (takenIn cs ++ idsOf q.kept).Perm (idsOf (q.startedIn cs) ++ idsOf (q.after cs).kept ++
      idsOf (q.reportedIn cs) ++ idsOf (q.unreportedIn cs)) := by
  induction cs generalizing q with
  | nil => simp [takenIn, startedIn, reportedIn, unreportedIn, gather, after]
  | cons c cs ih =>
    have hstep := turnover_obey h c
    -- the two permutations are added up id by id
    have hfirst := List.perm_iff_count.mp hstep.conserved
    have hrest := List.perm_iff_count.mp (ih hstep.valid)
    rw [List.perm_iff_count]
    intro id
    have hid := hfirst id
    have hid' := hrest id
    simp only [startedIn, reportedIn, unreportedIn] at hid' ⊢
    simp only [takenIn, List.flatMap_cons, gather, idsOf_append, List.count_append, after_cons]
      at hid hid' ⊢
    omega

/-- The bound `n` of a new entry drives nothing out exactly if no more entries wait than it
    allows. -/
theorem evictedBy_eq_nil_iff (q : Queue) (n : Nat) :
    q.evictedBy (some n) = [] ↔ q.pending.length ≤ n := by
  show q.pending.take (q.pending.length - n) = [] ↔ _
  rw [List.take_eq_nil_iff, ← List.length_eq_zero_iff]
  omega

/-- Every drop of a run is reported exactly if no entry `e` brings along a bound `n` that is smaller
    than the number of entries that wait at this time. -/
theorem unreportedIn_eq_nil_iff (q : Queue) (cs : List QueueCommand) :
    q.unreportedIn cs = [] ↔ ∀ before e n rest, cs = before ++ .enqueue e :: rest →
      e.queueSize = some n → (q.after before).pending.length ≤ n := by
  rw [List.eq_nil_iff_forall_not_mem]
  unfold unreportedIn
  simp only [mem_gather]
  constructor
  · intro hnone before e n rest hsplit hsize
    rw [← evictedBy_eq_nil_iff, List.eq_nil_iff_forall_not_mem, ← hsize]
    exact fun x hx => hnone x ⟨before, .enqueue e, rest, hsplit, hx⟩
  · rintro hbound x ⟨before, c, rest, hsplit, hx⟩
    -- only a new entry can drive others out in silence
    cases c with
    | enqueue e =>
      cases hsize : e.queueSize with
      | none => simp [QueueCommand.unreported, hsize, evictedBy] at hx
      | some n =>
        have hnil := (evictedBy_eq_nil_iff _ n).mpr (hbound before e n rest hsplit hsize)
        simp [QueueCommand.unreported, hsize, hnil] at hx
    | _ => simp [QueueCommand.unreported] at hx

/-- The books of the run `cs` of the new queue `q`. -/
structure Accounted (q : Queue) (cs : List QueueCommand) : Prop where
  /-- What was taken in was handed out, is kept, was reported as dropped, or was dropped without a
      report. -/
  partition : (takenIn cs).Perm (idsOf (q.startedIn cs) ++ idsOf (q.after cs).kept ++
    idsOf (q.reportedIn cs) ++ idsOf (q.unreportedIn cs))
  /-- No entry is handed out or reported as dropped twice. -/
  once : (idsOf (q.startedIn cs ++ q.reportedIn cs)).Nodup
  /-- The same by number, where `toldIn` stands for what the queue reported. -/
  total : (takenIn cs).length = (q.after cs).pending.length + (q.after cs).delayed.length +
    (q.startedIn cs).length + q.toldIn cs + (q.unreportedIn cs).length
  /-- The numbers add up without what was dropped in silence exactly if no entry came with a bound
      that was smaller than the number of entries that waited. -/
  balanced_iff : (takenIn cs).length = (q.after cs).pending.length + (q.after cs).delayed.length +
      (q.startedIn cs).length + q.toldIn cs ↔
    ∀ before e n rest, cs = before ++ .enqueue e :: rest → e.queueSize = some n →
      (q.after before).pending.length ≤ n

end Queue

open Queue

/-- **The books of a run.** Whatever a new queue is told by `cs`, as long as no id comes twice, its
    books are `Accounted`: what it took in is what it keeps, hands out and reports as dropped, and
    what new entries with a smaller bound drove out. The last part nobody is told of. -/
theorem accounted_run (maxSize : Option Nat) (cs : List QueueCommand) (hids : (takenIn cs).Nodup) :
    Accounted { maxSize } cs := by
  have hperm := perm_run (valid_new maxSize) cs
  rw [show idsOf ({ maxSize } : Queue).kept = [] from rfl, List.append_nil] at hperm
  have htotal := hperm.length_eq
  simp only [List.length_append, idsOf, List.length_map, kept, ← toldIn_eq] at htotal
  refine {
    partition := hperm
    once := ?_
    total := ?_
    balanced_iff := ?_ }
  · -- handed out and reported are two of the parts that the ids were distributed among
    have hnodup := hperm.nodup_iff.mp hids
    refine hnodup.sublist ?_
    rw [idsOf_append]
    exact ((List.sublist_append_left _ _).append (.refl _)).trans (List.sublist_append_left _ _)
  · omega
  · rw [← unreportedIn_eq_nil_iff, ← List.length_eq_zero_iff]
    omega

/-- A request goes into flight, a second one waits, and a third one comes with a `queueSize` that
    allows none to wait. -/
def QueueCommand.crowding : List QueueCommand :=
  [.enqueue (.plain ⟨1⟩ "a"), .enqueue (.plain ⟨2⟩ "b"),
    .enqueue { Entry.plain ⟨3⟩ "c" with queueSize := some 0 }]

/-- Nobody is told of the second request of `crowding`, so of three entries the queue accounts for
    two. -/
theorem unreported_crowding :
    let q : Queue := {}
    let cs := QueueCommand.crowding
    (takenIn cs).Nodup ∧ (takenIn cs).length = 3 ∧
      (q.after cs).pending.length + (q.after cs).delayed.length + (q.startedIn cs).length +
        q.toldIn cs = 2 ∧
      idsOf (q.unreportedIn cs) = [⟨2⟩] := by
  decide

/-- One request is in flight; of two that were held for the source `b` the second one is released,
    comes to wait and is driven out by a new bound; the last one is dropped. -/
def QueueCommand.dwindling : List QueueCommand :=
  [.enqueue (.plain ⟨1⟩ "a"), .enqueue { Entry.plain ⟨2⟩ "b" with delay := some 5 },
    .enqueue { Entry.plain ⟨3⟩ "b" with delay := some 5 }, .release "b" 2,
    .enqueue { Entry.plain ⟨4⟩ "c" with queueSize := some 1 }, .complete ⟨1⟩,
    .enqueue (.plain ⟨5⟩ "d"), .cancelAll]

/-- The books of `dwindling` balance. -/
theorem accounted_dwindling :
    (takenIn QueueCommand.dwindling).Nodup ∧ Accounted {} QueueCommand.dwindling :=
  ⟨by decide, accounted_run none QueueCommand.dwindling (by decide)⟩

end PagePatch
