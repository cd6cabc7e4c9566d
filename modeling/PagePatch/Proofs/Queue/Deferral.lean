import Mathlib.Data.List.Induction
import PagePatch.Proofs.Queue.Bound

namespace PagePatch

/-!
# Deferrals

An entry with a delay is held until it is released under the number of its deferral. A release
under any other number comes too late, or was made up.

* `Since` — something happened, and nothing has undone it since;
* `Queue.Awaits` — the last deferral of a source along a run, as long as it was neither released nor
  cancelled;
* `Queue.deferral?_after` — what a queue holds is what awaits its release;
* `Queue.numbersIn`, `Queue.numbersIn_eq` — the numbers of the deferrals along a run, none of which
  comes twice;
* `releases_after` — when a release succeeds, and what it admits.
-/

/-! ### Since -/

/-- Something that `happens` did so at a place of `xs`, and nothing behind this place `undoes`
    it. -/
def Since {α : Type} (happens undoes : α → Prop) (xs : List α) : Prop :=
  ∃ before x later, xs = before ++ x :: later ∧ happens x ∧ ∀ y ∈ later, ¬ undoes y

section

variable {α : Type} {happens undoes : α → Prop}

/-- At first nothing has happened, so `Since` does not hold, whatever would undo it. -/
theorem not_since_nil : ¬ Since happens undoes [] := by
  rintro ⟨before, x, later, hnil, -⟩
  simp at hnil

/-- It happens now, or it has happened before and is not undone now. So `Since` can be followed
    along a run from the front, although it looks back from the end. -/
theorem since_snoc {xs : List α} {x : α} :
    Since happens undoes (xs ++ [x]) ↔
      happens x ∨ (Since happens undoes xs ∧ ¬ undoes x) := by
  constructor
  · rintro ⟨before, y, later, hsplit, hy, hlater⟩
    -- the place is the last one, or it lies in front and the last one does not undo it
    rcases List.eq_nil_or_concat later with rfl | ⟨rest, z, rfl⟩
    · obtain ⟨-, rfl⟩ := List.append_inj' hsplit rfl |>.imp_right List.singleton_inj.mp
      exact .inl hy
    · rw [List.concat_eq_append, ← List.cons_append, ← List.append_assoc] at hsplit
      obtain ⟨rfl, hlast⟩ := List.append_inj' hsplit rfl
      obtain rfl := List.singleton_inj.mp hlast
      refine .inr ⟨⟨before, y, rest, rfl, hy, fun w hw => hlater w ?_⟩, hlater x ?_⟩ <;> simp [*]
  · rintro (hx | ⟨⟨before, y, later, rfl, hy, hlater⟩, hx⟩)
    · exact ⟨xs, x, [], rfl, hx, nofun⟩
    · refine ⟨before, y, later ++ [x], by simp, hy, fun w hw => ?_⟩
      rcases List.mem_append.mp hw with hw | hw
      · exact hlater w hw
      · rwa [List.mem_singleton.mp hw]

end

/-! ### Deferring and revoking -/

/-- The source and the number of the deferral that an answer tells of, if it is a `deferred` one. -/
def QueueAnswer.deferral : QueueAnswer → Option (String × Nat)
  | admission (some (.deferred source generation _ _)) => some (source, generation)
  | _ => none

namespace QueueCommand

/-- The entry that the command brings along to be held, if it is an `enqueue` of an entry with a
    delay. -/
def held? : QueueCommand → Option Entry
  | enqueue e => if e.isDelayed then some e else none
  | _ => none

/-- The entry `e` of `source` is taken in and held, and the queue answers with its number
    `generation`. -/
def Defers (source : String) (generation : Nat) (e : Entry) (c : QueueCommand) (q : Queue) : Prop :=
  c = .enqueue e ∧ (q.obey c).1.deferral = some (source, generation)

/-- What is held for `source` under `generation` is so no longer: another entry takes its place, it
    is released, or everything is cancelled. -/
def Revokes (source : String) (generation : Nat) (c : QueueCommand) (q : Queue) : Prop :=
  (∃ other, (q.obey c).1.deferral = some (source, other)) ∨
    (c = .release source generation ∧ (q.release source generation).1.isSome) ∨ c = .cancelAll

/-- The number that comes off by the command `c`, which has to be a `release` that succeeds on
    `q`. -/
def released (c : QueueCommand) (q : Queue) : List Nat :=
  match c with
  | release source generation =>
    if (q.release source generation).1.isSome then [generation] else []
  | _ => []

/-- A `generation` comes off only by a release under this number that succeeds, whatever its source
    is. -/
theorem mem_released {c : QueueCommand} {q : Queue} {generation : Nat} :
    generation ∈ c.released q ↔ ∃ source, c = .release source generation ∧
      (q.release source generation).1.isSome := by
  cases c with
  | release source number =>
    simp only [released, List.mem_ite_nil_right, List.mem_singleton, release.injEq]
    constructor
    · rintro ⟨hsome, rfl⟩
      exact ⟨source, ⟨rfl, rfl⟩, hsome⟩
    · rintro ⟨source, ⟨rfl, rfl⟩, hsome⟩
      exact ⟨hsome, rfl⟩
  | _ => exact ⟨fun h => absurd h List.not_mem_nil, nofun⟩

/-- The number of the deferral that the command `c` leads to on `q`, if it leads to one. -/
def number (c : QueueCommand) (q : Queue) : List Nat :=
  ((q.obey c).1.deferral.map Prod.snd).toList

end QueueCommand

namespace Queue

variable {q : Queue} {c : QueueCommand} {source : String} {generation : Nat} {e : Entry}

/-- The answer of `place` tells of no deferral, whatever becomes of the entry `e`. -/
theorem deferral_place (q : Queue) (e : Entry) :
    (QueueAnswer.admission (some (q.place e).1)).deferral = none := by
  unfold place
  split
  · rfl
  · generalize { q with pending := q.pending ++ [e] }.trim = trimmed
    obtain ⟨evicted, rest⟩ := trimmed
    dsimp only
    rcases rest.dequeue with ⟨_ | head, q'⟩ <;> rfl

/-- Dropping with `trim` leaves the numbers of the deferrals alone. -/
theorem trim_lastGeneration (q : Queue) : q.trim.2.lastGeneration = q.lastGeneration := by
  unfold trim
  cases q.maxSize <;> rfl

/-- So does the bound `size` that an entry brings along. -/
theorem override_lastGeneration (q : Queue) (size : Option Nat) :
    (q.override size).lastGeneration = q.lastGeneration := by
  cases size with
  | none => rfl
  | some n => exact trim_lastGeneration { q with maxSize := some n }

/-- So does `place` on a queue in order. -/
theorem place_lastGeneration (h : q.Valid) (e : Entry) :
    (q.place e).2.lastGeneration = q.lastGeneration := by
  cases hcurrent : q.current with
  | none => rw [place_of_idle h hcurrent]
  | some id =>
    rw [place_of_busy hcurrent]
    exact trim_lastGeneration { q with pending := q.pending ++ [e] }

/-- Dropping with `trim` leaves the bound alone as well. -/
theorem trim_maxSize (q : Queue) : q.trim.2.maxSize = q.maxSize := by
  unfold trim
  cases hmax : q.maxSize with
  | none => exact hmax
  | some max => rfl

/-- And so does `place` on a queue in order. -/
theorem place_maxSize (h : q.Valid) (e : Entry) : (q.place e).2.maxSize = q.maxSize := by
  cases hcurrent : q.current with
  | none => rw [place_of_idle h hcurrent]
  | some id =>
    rw [place_of_busy hcurrent]
    exact trim_maxSize { q with pending := q.pending ++ [e] }

/-- A queue stays in order when what it holds for `source` is given up. -/
theorem valid_without (h : q.Valid) (source : String) :
    ({ q with delayed := q.delayed.filter (·.1 ≠ source) } : Queue).Valid :=
  ⟨h.idle, h.sources.sublist (List.filter_sublist.map _)⟩

/-- A release succeeds exactly if `deferral?` finds an entry `e` for `source` under the number
    `generation`. -/
theorem isSome_release_iff : (q.release source generation).1.isSome ↔
    ∃ e, q.deferral? source = some ⟨generation, e⟩ := by
  unfold release
  cases hheld : q.deferral? source with
  | none => simp
  | some held =>
    obtain ⟨number, e⟩ := held
    by_cases hnumber : number = generation <;> simp [hnumber]

/-- A release that does not succeed leaves `q` as it is, with nothing in its answer. -/
theorem release_of_not_isSome (h : ¬ (q.release source generation).1.isSome) :
    q.release source generation = (none, q) := by
  refine release_of_stale (Option.eq_none_iff_forall_not_mem.mpr fun held hfound => ?_)
  obtain ⟨hheld, rfl⟩ := held_of_filter hfound
  exact h (isSome_release_iff.mpr ⟨held.entry, hheld⟩)

/-- The entries that are held after a command, read off the table `delayed` alone: a new row
    replaces the one of its source, a release takes its row out, and `cancelAll` all of them. -/
def heldAfter (q : Queue) : QueueCommand → List (String × Deferral)
  | .enqueue e =>
    if e.isDelayed then
      q.delayed.filter (·.1 ≠ e.source) ++ [(e.source, ⟨q.lastGeneration + 1, e⟩)]
    else q.delayed
  | .release source generation =>
    if (q.release source generation).1.isSome then q.delayed.filter (·.1 ≠ source) else q.delayed
  | .cancelAll => []
  | _ => q.delayed

/-- What the command `c`, which `a` answers, does to the deferrals of the queue `q`, which becomes
    `q'`. -/
structure Reschedules (q : Queue) (c : QueueCommand) (a : QueueAnswer) (q' : Queue) : Prop where
  /-- A new deferral takes the place of the one of its source, a release takes out the one of its
      source, and nothing else is held or given up. -/
  delayed : q'.delayed = q.heldAfter c
  /-- The answer tells of a new deferral, which has the next number, and of no other one. -/
  answer : a.deferral = c.held?.map fun e => (e.source, q.lastGeneration + 1)
  /-- The numbers go on by one for each new deferral, so no number is given twice. -/
  lastGeneration : q'.lastGeneration = q.lastGeneration + c.held?.toList.length

/-- A command `c` that holds nothing and gives up nothing, with the same table and numbers in `q'`
    as in `q`. -/
theorem reschedules_none {a : QueueAnswer} {q' : Queue} (hheld : c.held? = none)
    (hafter : q.heldAfter c = q.delayed) (hanswer : a.deferral = none)
    (hdelayed : q'.delayed = q.delayed) (hlast : q'.lastGeneration = q.lastGeneration) :
    Reschedules q c a q' where
  delayed := hdelayed.trans hafter.symm
  answer := by rw [hanswer, hheld, Option.map_none]
  lastGeneration := by simp [hlast, hheld]

/-- An entry that is placed on the queue `p` in order: what `p` does not hold any more was given up
    before. -/
theorem reschedules_place {p : Queue} (h : p.Valid) (e : Entry) (hheld : c.held? = none)
    (hafter : q.heldAfter c = p.delayed) (hlast : p.lastGeneration = q.lastGeneration) :
    Reschedules q c (.admission (some (p.place e).1)) (p.place e).2 where
  delayed := (place_delayed h e).trans hafter.symm
  answer := by rw [deferral_place, hheld, Option.map_none]
  lastGeneration := by simp [place_lastGeneration h, hlast, hheld]

/-- **What the command `c` does to the deferrals** of a queue in order. All that follows about
    deferrals rests on this. -/
theorem reschedules_obey (h : q.Valid) (c : QueueCommand) :
    Reschedules q c (q.obey c).1 (q.obey c).2 := by
  cases c with
  | enqueue e =>
    cases hdelayed : e.isDelayed with
    | true =>
      obtain ⟨delay, henqueue⟩ := enqueue_of_delayed hdelayed q
      simp only [obey, henqueue]
      exact {
        delayed := by simp [defer, heldAfter, hdelayed, override_delayed, override_lastGeneration]
        answer := by
          simp [defer, QueueAnswer.deferral, QueueCommand.held?, hdelayed, override_lastGeneration]
        lastGeneration := by
          simp [defer, QueueCommand.held?, hdelayed, override_lastGeneration] }
    | false =>
      simp only [obey, enqueue_of_not_delayed hdelayed]
      exact reschedules_place (flow_override h e.queueSize).valid _
        (by simp [QueueCommand.held?, hdelayed]) (by simp [heldAfter, hdelayed, override_delayed])
        (override_lastGeneration q e.queueSize)
  | release source generation =>
    cases hfound : (q.deferral? source).filter (·.generation = generation) with
    | none =>
      simp only [obey, release_of_stale hfound]
      exact reschedules_none rfl (by simp [heldAfter, release_of_stale hfound]) rfl rfl rfl
    | some held =>
      obtain ⟨hheld, rfl⟩ := held_of_filter hfound
      have hafter : q.heldAfter (.release source held.generation) =
          q.delayed.filter (·.1 ≠ source) := if_pos (isSome_release_iff.mpr ⟨held.entry, hheld⟩)
      simp only [obey, release_of_held hheld]
      exact reschedules_place (valid_without h source) _ rfl hafter rfl
  | dequeue =>
    simp only [obey, dequeue_of_valid h]
    exact reschedules_none rfl rfl rfl rfl rfl
  | complete id =>
    -- the end of a request moves waiting entries only
    by_cases hid : q.current = some id
    · simp only [obey, complete_eq hid]
      exact reschedules_none rfl rfl rfl rfl rfl
    · simp only [obey, complete_of_ne hid]
      exact reschedules_none rfl rfl rfl rfl rfl
  | cancelAll => exact ⟨rfl, rfl, rfl⟩
  | resize maxSize =>
    exact reschedules_none rfl rfl rfl (trim_delayed { q with maxSize })
      (trim_lastGeneration { q with maxSize })

/-! ### What is held -/

/-- Without its rows a `key` is not found. -/
theorem lookup_filter_self {α : Type} (l : List (String × α)) (key : String) :
    (l.filter (·.1 ≠ key)).lookup key = none := by
  rw [List.lookup_eq_none_iff]
  intro row hrow
  have hother := (List.mem_filter.mp hrow).2
  rw [decide_eq_true_eq] at hother
  exact bne_iff_ne.mpr (Ne.symm hother)

/-- A new row is found under its own key, `other`, and leaves the rows of the other keys to be
    found. -/
theorem lookup_exchanged {α : Type} (l : List (String × α)) (key other : String) (x : α) :
    (l.filter (·.1 ≠ other) ++ [(other, x)]).lookup key =
      if key = other then some x else l.lookup key := by
  rw [List.lookup_append]
  by_cases hkey : key = other
  · subst hkey
    rw [lookup_filter_self, if_pos rfl, Option.none_or, List.lookup_cons, BEq.rfl]
  · have hbeq : (key == other) = false := beq_eq_false_iff_ne.mpr hkey
    rw [lookup_filter_ne l hkey, if_neg hkey, List.lookup_cons, hbeq, List.lookup_nil,
      Option.or_none]

/-- What is held for `source` after the command `c` is what `c` defers, or what was held before and
    is not revoked by `c`. -/
theorem deferral?_obey_iff (h : q.Valid) (c : QueueCommand) (source : String) (generation : Nat)
    (e : Entry) : (q.obey c).2.deferral? source = some ⟨generation, e⟩ ↔
      c.Defers source generation e q ∨
        (q.deferral? source = some ⟨generation, e⟩ ∧ ¬ c.Revokes source generation q) := by
  obtain ⟨hdelayed, hanswer, -⟩ := reschedules_obey h c
  unfold QueueCommand.Defers QueueCommand.Revokes
  rw [hanswer, deferral?, hdelayed]
  cases c with
  | enqueue new =>
    cases hnew : new.isDelayed with
    | false => simp [heldAfter, QueueCommand.held?, hnew, deferral?]
    | true =>
      simp only [heldAfter, QueueCommand.held?, hnew, if_true, lookup_exchanged]
      -- the new row hides the old one of its source, and no other
      by_cases hsource : source = new.source
      · subst hsource
        simp [and_comm]
      · simp [deferral?, hsource, Ne.symm hsource]
  | release other number =>
    by_cases hreleased : (q.release other number).1.isSome
    · simp only [heldAfter, hreleased, if_true]
      by_cases hsource : source = other
      · subst hsource
        -- what was held was held under this number, so the release takes it out
        obtain ⟨held, hheld⟩ := isSome_release_iff.mp hreleased
        rw [lookup_filter_self, hheld]
        constructor
        · rintro ⟨⟩
        · rintro (⟨⟨⟩, -⟩ | ⟨hsame, hkept⟩)
          obtain ⟨rfl, rfl⟩ := Deferral.mk.inj (Option.some.inj hsame)
          exact absurd (.inr (.inl ⟨rfl, hreleased⟩)) hkept
      · rw [lookup_filter_ne _ hsource]
        simp [QueueCommand.held?, deferral?, Ne.symm hsource]
    · simp only [heldAfter, hreleased, Bool.false_eq_true, if_false]
      constructor
      · refine fun hsame => .inr ⟨hsame, ?_⟩
        rintro (⟨-, ⟨⟩⟩ | ⟨hc, hsome⟩ | ⟨⟨⟩⟩)
        obtain ⟨rfl, rfl⟩ := QueueCommand.release.inj hc
        exact hreleased hsome
      · rintro (⟨⟨⟩, -⟩ | ⟨hsame, -⟩)
        exact hsame
  | _ => simp [heldAfter, QueueCommand.held?, deferral?]

/-! ### Numbers -/

/-- The numbers under which entries are held, in the order of the table `delayed`. -/
def heldNumbers (q : Queue) : List Nat :=
  q.delayed.map (·.2.generation)

/-- A number that the command `c` releases was held before, a new one is held from now on, and none
    appears otherwise. -/
theorem numbers_obey (h : q.Valid) (c : QueueCommand) :
    (c.released q ++ (q.obey c).2.heldNumbers).Subperm (c.number q ++ q.heldNumbers) := by
  obtain ⟨hdelayed, hanswer, -⟩ := reschedules_obey h c
  unfold heldNumbers
  rw [hdelayed, QueueCommand.number, hanswer]
  cases c with
  | enqueue new =>
    cases hnew : new.isDelayed with
    | false =>
      simp only [QueueCommand.released, heldAfter, QueueCommand.held?, hnew, Bool.false_eq_true,
        if_false]
      exact .refl _
    | true =>
      -- what is replaced goes without being released, so some of the numbers may be lost here
      have hothers : ((q.delayed.filter (·.1 ≠ new.source)).map (·.2.generation)).Sublist
          (q.delayed.map (·.2.generation)) := List.filter_sublist.map _
      simp only [QueueCommand.released, heldAfter, QueueCommand.held?, hnew, if_true,
        List.map_append, List.nil_append]
      exact List.perm_append_comm.subperm.trans (hothers.cons_cons _).subperm
  | release source number =>
    by_cases hreleased : (q.release source number).1.isSome
    · obtain ⟨e, hheld⟩ := isSome_release_iff.mp hreleased
      have hrows := (perm_lookup_filter q.delayed source h.sources).map (·.2.generation)
      rw [show q.delayed.lookup source = _ from hheld] at hrows
      simp only [QueueCommand.released, heldAfter, hreleased, if_true]
      exact hrows.symm.subperm
    · simp only [QueueCommand.released, heldAfter, hreleased, Bool.false_eq_true, if_false]
      exact .refl _
  | cancelAll => exact List.nil_subperm
  | _ => exact .refl _

/-- The numbers of the deferrals along the run `cs`, in the order in which they were given. -/
def numbersIn (q : Queue) (cs : List QueueCommand) : List Nat :=
  gather QueueCommand.number q cs

/-- The numbers that come off by a release along the run `cs`. -/
def releasedIn (q : Queue) (cs : List QueueCommand) : List Nat :=
  gather QueueCommand.released q cs

/-- **Numbers in a row.** The deferrals of a run have the numbers that come after `lastGeneration`,
    one after the other, whatever happens between them. -/
theorem numbersIn_eq (h : q.Valid) (cs : List QueueCommand) :
    q.numbersIn cs =
      List.range' (q.lastGeneration + 1) (cs.filterMap QueueCommand.held?).length := by
  induction cs generalizing q with
  | nil => rfl
  | cons c cs ih =>
    obtain ⟨-, hanswer, hlast⟩ := reschedules_obey h c
    have hrest := ih (turnover_obey h c).valid
    unfold numbersIn at hrest ⊢
    rw [gather, hrest, hlast, QueueCommand.number, hanswer]
    cases hheld : c.held? with
    | none => simp [hheld]
    | some e => simp [hheld, List.range'_succ]

/-- What was released along the run `cs` and what is held still has different numbers, if the
    deferrals had: none of them comes off twice. -/
theorem numbers_run (h : q.Valid) (cs : List QueueCommand) :
    (q.releasedIn cs ++ (q.after cs).heldNumbers).Subperm (q.numbersIn cs ++ q.heldNumbers) := by
  induction cs generalizing q with
  | nil => exact .refl _
  | cons c cs ih =>
    have hstep := numbers_obey h c
    have hrest := ih (turnover_obey h c).valid
    rw [List.subperm_ext_iff]
    intro number _
    have hnumber := hstep.count_le number
    have hnumber' := hrest.count_le number
    simp only [releasedIn, numbersIn] at hnumber' ⊢
    simp only [gather, List.count_append, after_cons] at hnumber hnumber' ⊢
    omega

/-- The deferrals of a new queue all have different numbers along any run `cs`, as they are numbered
    in a row. -/
theorem nodup_numbersIn (maxSize : Option Nat) (cs : List QueueCommand) :
    (({ maxSize } : Queue).numbersIn cs).Nodup := by
  rw [numbersIn_eq (valid_new maxSize)]
  exact List.nodup_range'

/-- Nothing that a new queue held is released twice along the run `cs`. -/
theorem nodup_releasedIn (maxSize : Option Nat) (cs : List QueueCommand) :
    (({ maxSize } : Queue).releasedIn cs).Nodup := by
  obtain ⟨released, hperm, hsublist⟩ := numbers_run (valid_new maxSize) cs
  have hnumbers : (({ maxSize } : Queue).numbersIn cs ++ []).Nodup := by
    rw [List.append_nil]
    exact nodup_numbersIn maxSize cs
  exact (hperm.nodup_iff.mp (hnumbers.sublist hsublist)).sublist (List.sublist_append_left _ _)

/-! ### Runs -/

/-- The commands of a run, each with the queue that it meets, so that `Since` can look at both. -/
def encounters (q : Queue) (cs : List QueueCommand) : List (QueueCommand × Queue) :=
  gather (fun c q => [(c, q)]) q cs

/-- The last deferral of `source` along the run `cs` has the number `generation` and came with the
    entry `e`, and it was neither released nor cancelled since. -/
def Awaits (q : Queue) (cs : List QueueCommand) (source : String) (generation : Nat) (e : Entry) :
    Prop :=
  Since (fun m => m.1.Defers source generation e m.2) (fun m => m.1.Revokes source generation m.2)
    (q.encounters cs)

/-- **What is held.** After the run `cs` a new queue holds what `Awaits` its release, and nothing
    else. -/
theorem deferral?_after (maxSize : Option Nat) (cs : List QueueCommand) (source : String)
    (generation : Nat) (e : Entry) :
    (({ maxSize } : Queue).after cs).deferral? source = some ⟨generation, e⟩ ↔
      ({ maxSize } : Queue).Awaits cs source generation e := by
  induction cs using List.reverseRecOn with
  | nil => simp [Awaits, encounters, gather, not_since_nil, after, deferral?]
  | append_singleton cs c ih =>
    rw [after_snoc, deferral?_obey_iff (valid_after (valid_new maxSize) cs), ih, Awaits, Awaits,
      encounters, encounters, gather_snoc, since_snoc]

/-- The queue `q` admits the entry `e` that it held for `source`, answers with `a` and becomes
    `q'`. -/
structure Admits (q : Queue) (source : String) (e : Entry) (a : Option Admission) (q' : Queue) :
    Prop where
  /-- An idle queue puts it in flight, where nothing can wait. -/
  idle : q.current = none → a = some (.dispatch e) ∧ q'.current = some e.id ∧ q'.pending = []
  /-- A busy one lets it wait behind the others; the bound drives out the oldest ones. -/
  busy : ∀ id, q.current = some id → q'.current = some id ∧
    ∃ evicted, a = some (.queued evicted) ∧ evicted ++ q'.pending = q.pending ++ [e]
  /-- Nothing is held for `source` any longer. -/
  released : q'.deferral? source = none
  /-- The deferrals of the other sources stay as they are. -/
  others : ∀ other, other ≠ source → q'.deferral? other = q.deferral? other
  /-- The bound stays as it is. -/
  maxSize : q'.maxSize = q.maxSize
  /-- The next deferral gets the number that it would have got anyway. -/
  lastGeneration : q'.lastGeneration = q.lastGeneration

/-- A release under the number that `deferral?` gives admits the entry `e` that is held, without its
    delay. -/
theorem admits_release (h : q.Valid) (hheld : q.deferral? source = some ⟨generation, e⟩) :
    Admits q source { e with delay := none } (q.release source generation).1
      (q.release source generation).2 := by
  have hrest := valid_without h source
  have hdelayed := place_delayed hrest { e with delay := none }
  have hrelease : q.release source generation = _ := release_of_held hheld
  rw [hrelease]
  refine {
    idle := fun hidle => ?_
    busy := fun id hbusy => ?_
    released := ?_
    others := fun other hother => ?_
    maxSize := place_maxSize hrest _
    lastGeneration := place_lastGeneration hrest _ }
  · rw [place_of_idle hrest hidle]
    exact ⟨rfl, rfl, h.idle hidle⟩
  · rw [place_of_busy (q := { q with delayed := q.delayed.filter (·.1 ≠ source) }) hbusy]
    exact ⟨(trim_current _).trans hbusy, _, rfl, trim_append _⟩
  · rw [deferral?, hdelayed]
    exact lookup_filter_self q.delayed source
  · rw [deferral?, hdelayed]
    exact lookup_filter_ne q.delayed hother

/-- What releases can come to after the run `cs` of the new queue `q`. -/
structure Releases (q : Queue) (cs : List QueueCommand) : Prop where
  /-- A release succeeds exactly under the number of the last deferral of the source, if that was
      neither released nor cancelled since. -/
  succeeds_iff : ∀ source generation, ((q.after cs).release source generation).1.isSome ↔
    ∃ e, q.Awaits cs source generation e
  /-- It admits the entry of this deferral without its delay. -/
  admits : ∀ source generation e, q.Awaits cs source generation e →
    Admits (q.after cs) source { e with delay := none }
      ((q.after cs).release source generation).1 ((q.after cs).release source generation).2
  /-- Otherwise nothing at all changes. -/
  stale : ∀ source generation, (¬ ∃ e, q.Awaits cs source generation e) →
    (q.after cs).release source generation = (none, q.after cs)
  /-- The deferrals of the run are numbered from one on, whatever their sources are and whatever is
      released or cancelled between them. -/
  numbers : q.numbersIn cs = List.range' 1 (cs.filterMap QueueCommand.held?).length
  /-- So no number is given twice, and a release cannot mistake one deferral for another. -/
  distinct : (q.numbersIn cs).Nodup
  /-- Fewer than `2 ^ 64` deferrals have numbers of 64 bits. -/
  fits : (cs.filterMap QueueCommand.held?).length < UInt64.size →
    ∀ n ∈ q.numbersIn cs, n < UInt64.size

end Queue

open Queue

/-- **Only the last deferral.** Whatever a new queue was told by `cs`: a release succeeds for what
    is held at the time under its number, admits just that, and changes nothing otherwise. -/
theorem releases_after (maxSize : Option Nat) (cs : List QueueCommand) :
    Releases { maxSize } cs := by
  have hvalid := valid_after (valid_new maxSize) cs
  have hnumbers := numbersIn_eq (valid_new maxSize) cs
  have hsucceeds : ∀ source generation,
      ((({ maxSize } : Queue).after cs).release source generation).1.isSome ↔
        ∃ e, ({ maxSize } : Queue).Awaits cs source generation e := by
    intro source generation
    rw [isSome_release_iff]
    exact exists_congr fun e => deferral?_after maxSize cs source generation e
  refine {
    succeeds_iff := hsucceeds
    admits := fun source generation e hawaits =>
      admits_release hvalid ((deferral?_after maxSize cs source generation e).mpr hawaits)
    stale := fun source generation hnone =>
      release_of_not_isSome ((hsucceeds source generation).not.mpr hnone)
    numbers := hnumbers
    distinct := nodup_numbersIn maxSize cs
    fits := fun hfew n hn => ?_ }
  rw [hnumbers, List.mem_range'_1] at hn
  -- the numbers start at one
  have hlast : ({ maxSize } : Queue).lastGeneration = 0 := rfl
  omega

end PagePatch
