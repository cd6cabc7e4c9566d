import PagePatch.Proofs.Queue.Run

namespace PagePatch

/-!
# The order in which a queue serves its entries

An entry is admitted when it comes without a delay, or when it is released after its delay. From
then on it keeps its place: the oldest entry goes first, into flight or out of the queue.

* `Queue.admittedIn` — the ids of a run in the order of their admission;
* `Queue.boardedIn` — the ids that come into flight along a run;
* `Queue.order_run`, `Queue.released_run` — what a run does with the order, and that nothing is
  admitted twice;
* `inOrder_run` — first in, first out, and the oldest is dropped first.
-/

namespace Queue

/-- The ids of the entries that are admitted along the run `cs`, in the order of their admission.
    This is the order that the queue is held to. -/
def admittedIn (q : Queue) (cs : List QueueCommand) : List RequestId :=
  gather QueueCommand.admitted q cs

/-- The id that comes into flight by the command `c`. If the request in flight is ended and the same
    id comes again, it counts as well. -/
def boardedOn (c : QueueCommand) (q : Queue) : List RequestId :=
  if (q.obey c).2.current = q.current ∧ c.ends q = false then [] else (q.obey c).2.current.toList

/-- The ids that come into flight along the run `cs`, in this order. -/
def boardedIn (q : Queue) (cs : List QueueCommand) : List RequestId :=
  gather boardedOn q cs

/-- What comes into flight is what the answer hands out: `boardedOn` looks at the queue alone, and
    `QueueAnswer.started` at the answer. -/
theorem boardedOn_eq {q : Queue} (hvalid : q.Valid) (c : QueueCommand) :
    boardedOn c q = idsOf (q.obey c).1.started.toList := by
  have h := turnover_obey hvalid c
  have hcurrent := h.current
  unfold boardedOn
  cases hstarted : (q.obey c).1.started with
  | none =>
    rw [hstarted] at hcurrent
    cases hends : c.ends q <;> simp [hcurrent, hends]
  | some e =>
    rw [hstarted] at hcurrent
    have hchanged : ¬ ((q.obey c).2.current = q.current ∧ c.ends q = false) := by
      -- what is handed out was not in flight before: another one was, which has to be ended first
      rintro ⟨hsame, hgoesOn⟩
      rcases h.alone (by rw [hstarted]; rfl) with hidle | hends
      · rw [hcurrent, hidle] at hsame
        cases hsame
      · rw [hgoesOn] at hends
        cases hends
    rw [if_neg hchanged, hcurrent]
    rfl

/-- What comes into flight along the run `cs` (`boardedIn`), and then what waits: each of them
    waited before or was admitted since, in this order. -/
theorem order_run {q : Queue} (h : q.Valid) (cs : List QueueCommand) :
    (q.boardedIn cs ++ idsOf (q.after cs).pending).Sublist
      (idsOf q.pending ++ q.admittedIn cs) := by
  induction cs generalizing q with
  | nil => simp [boardedIn, admittedIn, gather, after]
  | cons c cs ih =>
    have hstep := turnover_obey h c
    -- what was driven out comes before the others and is left out
    have hfirst : (boardedOn c q ++ idsOf (q.obey c).2.pending).Sublist
        (idsOf q.pending ++ c.admitted q) := by
      refine .trans ?_ (order_obey h c)
      rw [boardedOn_eq h, List.append_assoc, idsOf_append, idsOf_append]
      exact List.sublist_append_right _ _
    have hrest := (ih hstep.valid).append_left (boardedOn c q)
    have hboth := hfirst.append_right ((q.obey c).2.admittedIn cs)
    rw [List.append_assoc, List.append_assoc] at hboth
    show (boardedOn c q ++ (q.obey c).2.boardedIn cs ++
      idsOf ((q.obey c).2.after cs).pending).Sublist
        (idsOf q.pending ++ (c.admitted q ++ (q.obey c).2.admittedIn cs))
    rw [List.append_assoc]
    exact hrest.trans hboth

/-- What is admitted along the run `cs` was held before or is new, and what is held afterwards is
    another entry. So no entry is admitted twice. -/
theorem released_run {q : Queue} (h : q.Valid) (cs : List QueueCommand) :
    (q.admittedIn cs ++ idsOf ((q.after cs).delayed.map (·.2.entry))).Subperm
      (takenIn cs ++ idsOf (q.delayed.map (·.2.entry))) := by
  induction cs generalizing q with
  | nil => exact .refl _
  | cons c cs ih =>
    have hstep := turnover_obey h c
    have hrest := ih hstep.valid
    rw [List.subperm_ext_iff]
    intro id _
    have hid := hstep.released.count_le id
    have hid' := hrest.count_le id
    simp only [admittedIn] at hid' ⊢
    simp only [takenIn, List.flatMap_cons, gather, List.count_append, after_cons] at hid hid' ⊢
    omega

/-- First in, first out: what the run `cs` of the new queue `q` does with the order of the
    admissions. -/
structure InOrder (q : Queue) (cs : List QueueCommand) : Prop where
  /-- No id is admitted twice. -/
  distinct : (q.admittedIn cs).Nodup
  /-- The ids come into flight in the order of their admission. -/
  boarded : (q.boardedIn cs).Sublist (q.admittedIn cs)
  /-- None comes into flight twice. -/
  once : (q.boardedIn cs).Nodup
  /-- At every time the entries wait in the order of their admission. -/
  waiting : ∀ before rest, cs = before ++ rest →
    (idsOf (q.after before).pending).Sublist (q.admittedIn before)
  /-- An entry that is driven out was admitted before each of those that wait still. -/
  evicted : ∀ before c rest, cs = before ++ c :: rest →
    ∀ x ∈ (q.after before).evictedOn c, ∀ y ∈ (q.after (before ++ [c])).pending,
      [x.id, y.id].Sublist (q.admittedIn (before ++ [c]))

end Queue

open Queue

/-- **First in, first out.** Whatever a new queue is told by `cs`, as long as no id comes twice:
    requests come into flight in the order of their admission, the others wait in this order, and a
    bound drives out the ones that were admitted first. -/
theorem inOrder_run (maxSize : Option Nat) (cs : List QueueCommand) (hids : (takenIn cs).Nodup) :
    InOrder { maxSize } cs := by
  have hnew := valid_new maxSize
  have hdistinct : (({ maxSize } : Queue).admittedIn cs).Nodup := by
    -- each id is taken in once, so it is admitted at most once
    obtain ⟨held, hperm, hheld⟩ := released_run hnew cs
    rw [show idsOf (({ maxSize } : Queue).delayed.map (·.2.entry)) = [] from rfl,
      List.append_nil] at hheld
    exact (hperm.nodup_iff.mp (hids.sublist hheld)).sublist (List.sublist_append_left _ _)
  have hboarded := (List.sublist_append_left _ _).trans (order_run hnew cs)
  have hwaiting : ∀ before, (idsOf (({ maxSize } : Queue).after before).pending).Sublist
      (({ maxSize } : Queue).admittedIn before) :=
    fun before => (List.sublist_append_right _ _).trans (order_run hnew before)
  refine {
    distinct := hdistinct
    boarded := hboarded
    once := hdistinct.sublist hboarded
    waiting := fun before _ _ => hwaiting before
    evicted := ?_ }
  -- what is driven out and what waits afterwards is one list in the order of the admissions
  intro before c rest _ x hx y hy
  have horder := order_obey (valid_after hnew before) c
  rw [after_snoc] at hy
  have hpair : [x.id, y.id].Sublist (idsOf ((({ maxSize } : Queue).after before).evictedOn c) ++
      idsOf ((({ maxSize } : Queue).after before).obey c).2.pending) :=
    (List.singleton_sublist.mpr (List.mem_map_of_mem hx)).append
      (List.singleton_sublist.mpr (List.mem_map_of_mem hy))
  refine hpair.trans (.trans ?_ (horder.trans ?_))
  · rw [idsOf_append, idsOf_append, List.append_assoc]
    exact (List.sublist_append_right _ _).append_left _
  · rw [admittedIn, gather_snoc]
    exact (hwaiting before).append_right _

/-- The second entry is held and comes to wait behind the third one; both are driven out by the
    fourth one, whose `queueSize` allows one to wait. -/
def QueueCommand.overtaking : List QueueCommand :=
  [.enqueue (.plain ⟨1⟩ "a"), .enqueue { Entry.plain ⟨2⟩ "b" with delay := some 5 },
    .enqueue (.plain ⟨3⟩ "c"), .release "b" 1,
    .enqueue { Entry.plain ⟨4⟩ "d" with queueSize := some 1 }, .complete ⟨1⟩]

/-- The run `overtaking` is in the order of the admissions, which is not that of the ids. -/
theorem inOrder_overtaking :
    (takenIn QueueCommand.overtaking).Nodup ∧
      ({} : Queue).admittedIn QueueCommand.overtaking = [⟨1⟩, ⟨3⟩, ⟨2⟩, ⟨4⟩] ∧
      ({} : Queue).boardedIn QueueCommand.overtaking = [⟨1⟩, ⟨4⟩] ∧
      InOrder {} QueueCommand.overtaking :=
  ⟨by decide, by decide, by decide, inOrder_run none QueueCommand.overtaking (by decide)⟩

end PagePatch
