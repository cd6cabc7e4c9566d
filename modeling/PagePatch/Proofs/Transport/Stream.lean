import PagePatch.Proofs.Transport.Stages

namespace PagePatch

/-!
# Handles as streams

A handle is used in any way: time passes, it is asked for its next signal, and the exchange is given
up. The signals that it gives out are those of its exchange in order, up to the last one, or up to
some stage and then that the exchange was given up. Behind that there is nothing.

* `HandleUse`, `Handle.after`, `Handle.given` — what is done with a handle, and what it gives out;
* `Handle.Stands` — where a handle stands by then, which each use preserves (`Handle.Stands.use`);
* `Handle.streams_start` — what a handle of an exchange gives out.
-/

/-! ### Uses -/

/-- What is done with a `Handle`: time passes, it is asked, or it is given up. -/
inductive HandleUse where
  /-- Time passes. -/
  | elapse (now : Nat)
  /-- It is asked for its next signal. -/
  | next
  /-- The exchange is given up. -/
  | abort
  deriving DecidableEq, Repr

/-- The signal that is given out as an answer, if there is one; `ended` and `pending` are none. -/
def Heard.signal? : Heard → Option Signal
  | .signal s => some s
  | .ended | .pending => none

namespace Handle

/-- The handle `h` behind one use. -/
def use (h : Handle) : HandleUse → Handle
  | .elapse now => h.elapse now
  | .next => h.next.2
  | .abort => h.abort

/-- What a use of `h` is answered: only a question for the next signal is. -/
def answer? (h : Handle) : HandleUse → Option Heard
  | .next => some h.next.1
  | .elapse _ | .abort => none

/-- The signals that the use `u` of `h` gives out, which is one at most. -/
def gives (h : Handle) (u : HandleUse) : List Signal :=
  ((h.answer? u).bind Heard.signal?).toList

/-- The handle behind the uses `us`, one after the other. -/
def after (h : Handle) (us : List HandleUse) : Handle :=
  us.foldl use h

/-- What the uses of `h` are answered, in their order. -/
def answers (h : Handle) : List HandleUse → List Heard
  | [] => []
  | u :: us => (h.answer? u).toList ++ (h.use u).answers us

/-- The signals that the handle `h` gives out while it is used by `us`. -/
def given (h : Handle) (us : List HandleUse) : List Signal :=
  (h.answers us).filterMap Heard.signal?

theorem after_append (h : Handle) (us vs : List HandleUse) :
    h.after (us ++ vs) = (h.after us).after vs :=
  List.foldl_append

theorem given_cons (h : Handle) (u : HandleUse) (us : List HandleUse) :
    h.given (u :: us) = h.gives u ++ (h.use u).given us := by
  have hfirst : (h.answer? u).toList.filterMap Heard.signal? = h.gives u := by
    unfold gives
    rcases h.answer? u with _ | ⟨s⟩ | _ | _ <;> rfl
  rw [given, answers, List.filterMap_append, hfirst]
  rfl

theorem given_append (h : Handle) (us vs : List HandleUse) :
    h.given (us ++ vs) = h.given us ++ (h.after us).given vs := by
  induction us generalizing h with
  | nil => rfl
  | cons u us ih =>
    rw [List.cons_append, given_cons, ih, given_cons, List.append_assoc]
    rfl

/-! ### Where a handle stands -/

/-- Where the handle `h` stands that had `signals` to give out, went through the uses `us` and gave
    out the signals `given`. -/
inductive Stands (signals : List Signal) (us : List HandleUse) (given : List Signal) (h : Handle) :
    Prop
  /-- It gave out stages, and has the rest to give out. -/
  | listening (hphase : h.phase = .listening) (hkept : .abort ∉ us)
      (hgoes : ∀ s ∈ given, s.isTerminal = false) (hrest : given ++ h.outstanding = signals)
  /-- It gave out stages, and the exchange was given up. -/
  | aborting (hphase : h.phase = .aborting) (habort : .abort ∈ us)
      (hgoes : ∀ s ∈ given, s.isTerminal = false) (hgiven : given <+: signals)
  /-- It gave out stages, and that the exchange was given up. -/
  | aborted {stages : List Signal} (hphase : h.phase = .finished) (habort : .abort ∈ us)
      (hgoes : ∀ s ∈ stages, s.isTerminal = false) (hstages : stages <+: signals)
      (hgiven : given = stages ++ [.aborted])
  /-- It gave out everything, and that came to an end. -/
  | ended {stages : List Signal} {last : Signal} (hphase : h.phase = .finished)
      (hgoes : ∀ s ∈ stages, s.isTerminal = false) (hlast : last.isTerminal = true)
      (hgiven : given = stages ++ [last]) (hall : given = signals)

/-- Only a handle that listens can be given up; any other `h` is left as it is. -/
theorem abort_eq_self {h : Handle} (hphase : h.phase ≠ .listening) : h.abort = h :=
  if_neg hphase

/-- Behind `abort`, a handle that was not finished is about to give out that it was given up. -/
theorem phase_abort {h : Handle} (hopen : h.isFinished = false) : h.abort.phase = .aborting := by
  cases hphase : h.phase with
  | listening => rw [abort, if_pos hphase]
  | aborting => rw [abort_eq_self (by rw [hphase]; nofun), hphase]
  | finished =>
    rw [isFinished, hphase] at hopen
    cases hopen

/-- A handle `h` that is not finished does not say that it is. -/
theorem next_ne_ended {h : Handle} (hopen : h.isFinished = false) : h.next.1 ≠ .ended := by
  intro hended
  unfold next at hended
  split at hended
  · rename_i hphase
    rw [isFinished, hphase] at hopen
    cases hopen
  all_goals cases hended

/-- A handle `h` that is finished stays so, and has nothing more to give out, however it is used. -/
theorem use_of_finished {h : Handle} (hphase : h.phase = .finished) (u : HandleUse) :
    (h.use u).phase = .finished ∧ (∀ heard, h.answer? u = some heard → heard = .ended) ∧
      h.gives u = [] := by
  cases u with
  | elapse now => exact ⟨hphase, nofun, rfl⟩
  | next =>
    have hnext : h.next = (.ended, h) := by
      unfold Handle.next
      rw [hphase]
    rw [gives, use, answer?, hnext]
    refine ⟨hphase, ?_, rfl⟩
    rintro _ ⟨⟩
    rfl
  | abort =>
    rw [use, abort_eq_self (by rw [hphase]; nofun)]
    exact ⟨hphase, nofun, rfl⟩

/-- A handle `h` that listens and has no signal yet says so. -/
theorem next_of_empty {h : Handle} (hphase : h.phase = .listening) (hqueued : h.queued = []) :
    h.next = (.pending, h) := by
  simp only [next, hphase, hqueued]

/-- After the exchange of `h` was given up, that is given out, and nothing else before. -/
theorem next_of_aborting {h : Handle} (hphase : h.phase = .aborting) :
    h.next = (.signal .aborted, { h with phase := .finished }) := by
  simp only [next, hphase]

variable {signals : List Signal} {us : List HandleUse} {given : List Signal} {h : Handle}

/-- A use `u` of a handle that listens: time brings signals in, a question takes the first one out,
    and giving up keeps what was given out. -/
theorem stands_use_of_listening (hcourse : Course signals) (hphase : h.phase = .listening)
    (hkept : .abort ∉ us) (hgoes : ∀ s ∈ given, s.isTerminal = false)
    (hrest : given ++ h.outstanding = signals) (u : HandleUse) :
    (h.use u).Stands signals (us ++ [u]) (given ++ h.gives u) := by
  cases u with
  | elapse now =>
    have hkept : HandleUse.abort ∉ us ++ [.elapse now] := by simp [hkept]
    have hrest : given ++ (h.elapse now).outstanding = signals := by
      rw [outstanding_elapse, hrest]
    exact (List.append_nil given).symm ▸ .listening hphase hkept hgoes hrest
  | abort =>
    have haborting : h.abort.phase = .aborting := by rw [Handle.abort, if_pos hphase]
    exact (List.append_nil given).symm ▸ .aborting haborting (by simp) hgoes ⟨_, hrest⟩
  | next =>
    have hkept : HandleUse.abort ∉ us ++ [.next] := by simp [hkept]
    cases hqueued : h.queued with
    | nil =>
      rw [gives, Handle.use, answer?, next_of_empty hphase hqueued]
      exact (List.append_nil given).symm ▸ .listening hphase hkept hgoes hrest
    | cons s rest =>
      have hsplit : given ++ s :: (rest ++ h.upcoming.flatMap Moment.signals) = signals := by
        rw [← hrest, outstanding, hqueued, List.cons_append]
      rw [gives, Handle.use, answer?, next_of_queued hphase hqueued]
      show Stands signals _ (given ++ [s]) _
      by_cases hlast : s.isTerminal = true
      -- an outcome is the last of all signals
      · have hlater : Course (s :: (rest ++ h.upcoming.flatMap Moment.signals)) :=
          Course.of_append (hsplit ▸ hcourse) hgoes
        have hnone := hlater.eq_nil_of_outcome hlast
        refine .ended (if_pos hlast) hgoes hlast rfl ?_
        rw [← hsplit, hnone]
      · have hgoes : ∀ s' ∈ given ++ [s], s'.isTerminal = false :=
          List.forall_mem_append.mpr ⟨hgoes, by simpa using hlast⟩
        refine .listening (if_neg hlast) hkept hgoes ?_
        rw [← hsplit, List.append_assoc]
        rfl

/-- A use `u` of a handle whose exchange was given up: only a question changes anything. -/
theorem stands_use_of_aborting (hphase : h.phase = .aborting) (habort : .abort ∈ us)
    (hgoes : ∀ s ∈ given, s.isTerminal = false) (hgiven : given <+: signals) (u : HandleUse) :
    (h.use u).Stands signals (us ++ [u]) (given ++ h.gives u) := by
  have habort : HandleUse.abort ∈ us ++ [u] := List.mem_append_left _ habort
  cases u with
  | elapse now => exact (List.append_nil given).symm ▸ .aborting hphase habort hgoes hgiven
  | abort =>
    have hsame : h.abort = h := abort_eq_self (by rw [hphase]; nofun)
    rw [Handle.use, hsame]
    exact (List.append_nil given).symm ▸ .aborting hphase habort hgoes hgiven
  | next =>
    rw [gives, Handle.use, answer?, next_of_aborting hphase]
    exact .aborted rfl habort hgoes hgiven rfl

/-- **One use** `u` preserves where a handle stands. -/
theorem Stands.use (hcourse : Course signals) (hs : h.Stands signals us given) (u : HandleUse) :
    (h.use u).Stands signals (us ++ [u]) (given ++ h.gives u) := by
  cases hs with
  | listening hphase hkept hgoes hrest =>
    exact stands_use_of_listening hcourse hphase hkept hgoes hrest u
  | aborting hphase habort hgoes hgiven =>
    exact stands_use_of_aborting hphase habort hgoes hgiven u
  | aborted hphase habort hgoes hstages hgiven =>
    obtain ⟨hstill, -, hquiet⟩ := use_of_finished hphase u
    rw [hquiet, List.append_nil]
    exact .aborted hstill (List.mem_append_left _ habort) hgoes hstages hgiven
  | ended hphase hgoes hlast hgiven hall =>
    obtain ⟨hstill, -, hquiet⟩ := use_of_finished hphase u
    rw [hquiet, List.append_nil]
    exact .ended hstill hgoes hlast hgiven hall

/-- **Any uses** `vs` preserve where a handle stands. -/
theorem Stands.after (hcourse : Course signals) (hs : h.Stands signals us given)
    (vs : List HandleUse) :
    (h.after vs).Stands signals (us ++ vs) (given ++ h.given vs) := by
  induction vs generalizing h us given with
  | nil =>
    show h.Stands signals (us ++ []) (given ++ [])
    rwa [List.append_nil, List.append_nil]
  | cons u vs ih =>
    have hrest := ih (hs.use hcourse u)
    rwa [List.append_assoc, List.append_assoc, ← given_cons] at hrest

/-! ### What a handle of an exchange gives out -/

variable {x : Exchange} {kind : TransportKind} {deadline now : Nat}

/-- What a handle of the exchange `x` gave out are stages, and then one outcome if it is
    finished. -/
theorem Stands.parts (hs : h.Stands (x.signals kind deadline now) us given) :
    ∃ stages last, given = stages ++ last ∧ stages <+: .opened :: x.reports kind ∧
      last.length ≤ 1 ∧ (h.isFinished = true ↔ last ≠ []) ∧
      ∀ s ∈ last, s = .aborted ∧ .abort ∈ us ∨ x.verdict? deadline = some s := by
  have hlistens : ∀ {phase : HandlePhase}, h.phase = phase → phase ≠ .finished →
      h.isFinished = false := by
    rintro _ rfl hphase
    exact beq_false_of_ne hphase
  have hfinished : h.phase = .finished → h.isFinished = true := fun hphase => beq_iff_eq.mpr hphase
  cases hs with
  | listening hphase hkept hgoes hrest =>
    refine ⟨given, [], (List.append_nil _).symm, x.prefix_reports ⟨_, hrest⟩ hgoes, Nat.zero_le 1,
      ?_, nofun⟩
    simp [hlistens hphase nofun]
  | aborting hphase habort hgoes hgiven =>
    refine ⟨given, [], (List.append_nil _).symm, x.prefix_reports hgiven hgoes, Nat.zero_le 1,
      ?_, nofun⟩
    simp [hlistens hphase nofun]
  | aborted hphase habort hgoes hstages hgiven =>
    refine ⟨_, [.aborted], hgiven, x.prefix_reports hstages hgoes, Nat.le_refl 1, ?_, ?_⟩
    · simp [hfinished hphase]
    · rintro s hs
      exact .inl ⟨List.mem_singleton.mp hs, habort⟩
  | ended hphase hgoes hlast hgiven hall =>
    obtain ⟨hstages, hverdict⟩ := Exchange.verdict?_of_outcome (hgiven.symm.trans hall) hlast
    refine ⟨_, [_], hgiven, hstages, Nat.le_refl 1, ?_, ?_⟩
    · simp [hfinished hphase]
    · rintro s hs
      rw [List.mem_singleton.mp hs]
      exact .inr hverdict

/-- The beginning `l` of two lists in a row is the beginning of `a`, followed by the beginning of
    `b`. -/
theorem exists_of_prefix_append {α : Type} {l a b : List α} (h : l <+: a ++ b) :
    ∃ l₁ l₂, l = l₁ ++ l₂ ∧ l₁ <+: a ∧ l₂ <+: b := by
  rw [List.prefix_iff_eq_take, List.take_append] at h
  exact ⟨_, _, h, List.take_prefix _ _, List.take_prefix _ _⟩

/-- The stages that were `given` out are the first one, the status code once at most, and parts of
    the body. -/
theorem Stands.order (hs : h.Stands (x.signals kind deadline now) us given) :
    ∃ first headers loadings last, given = first ++ headers ++ loadings ++ last ∧
      first ++ headers ++ loadings <+: .opened :: x.reports kind ∧
      first <+: [.opened] ∧ headers <+: x.headersHeard kind ∧ loadings <+: x.loadingsHeard kind ∧
      headers.length ≤ 1 ∧ last.length ≤ 1 ∧
      ∀ s ∈ last, s = .aborted ∧ .abort ∈ us ∨ x.verdict? deadline = some s := by
  obtain ⟨stages, last, hgiven, hstages, hlength, -, hlast⟩ := hs.parts
  obtain ⟨first, rest, rfl, hfirst, hrest⟩ :=
    exists_of_prefix_append (a := [Signal.opened]) hstages
  obtain ⟨headers, loadings, rfl, hheaders, hloadings⟩ := exists_of_prefix_append hrest
  rw [← List.append_assoc] at hgiven hstages
  exact ⟨first, headers, loadings, last, hgiven, hstages, hfirst, hheaders, hloadings,
    hheaders.length_le.trans (x.length_headersHeard_le kind), hlength, hlast⟩

/-- What a handle of the exchange `x` gave out, `s`, is a stage before the last one, that the
    exchange was given up, or the last signal of the exchange. -/
theorem Stands.signal_cases (hs : h.Stands (x.signals kind deadline now) us given) {s : Signal}
    (hmem : s ∈ given) :
    (∃ e, s = .stage e ∧ e.stage ≠ .done ∧ ∀ p, e.progress = some p → p ≤ 100) ∨
      s = .aborted ∨ x.verdict? deadline = some s := by
  obtain ⟨stages, last, rfl, hstages, -, -, hlast⟩ := hs.parts
  rcases List.mem_append.mp hmem with hstage | houtcome
  · exact .inl ((x.stages_reports kind).1 s (hstages.subset hstage))
  · rcases hlast s houtcome with ⟨habort, -⟩ | hverdict
    · exact .inr (.inl habort)
    · exact .inr (.inr hverdict)

/-- A stage `e` that was given out is one before the last one, or the response of the exchange. -/
theorem Stands.stage_cases (hs : h.Stands (x.signals kind deadline now) us given)
    {e : TransportEvent} (he : .stage e ∈ given) :
    (e.stage ≠ .done ∧ ∀ p, e.progress = some p → p ≤ 100) ∨
      ∃ r, x.ending = .respond r ∧ e = .done r := by
  rcases hs.signal_cases he with ⟨_, ⟨⟩, hstage⟩ | ⟨⟨⟩⟩ | hverdict
  · exact .inl hstage
  · obtain ⟨r, hending, ⟨⟩⟩ | ⟨_, -, ⟨⟩⟩ | ⟨-, ⟨⟩⟩ | ⟨-, ⟨⟩⟩ := Exchange.verdict?_cases hverdict
    exact .inr ⟨r, hending, rfl⟩

/-- No stage `e` that was given out tells of more than a hundred percent. -/
theorem Stands.progress_le (hs : h.Stands (x.signals kind deadline now) us given)
    {e : TransportEvent} (he : .stage e ∈ given) {p : Nat} (hp : e.progress = some p) :
    p ≤ 100 := by
  rcases hs.stage_cases he with ⟨-, hprogress⟩ | ⟨r, -, rfl⟩
  · exact hprogress p hp
  · cases hp
    exact Nat.le_refl 100

/-- A handle gives out that its exchange timed out, after `ms`, only if the exchange runs over its
    deadline. -/
theorem Stands.runsOver_of_timeout (hs : h.Stands (x.signals kind deadline now) us given) {ms : Nat}
    (hmem : .timeout ms ∈ given) : x.runsOver deadline = true := by
  rcases hs.signal_cases hmem with ⟨_, ⟨⟩, -⟩ | ⟨⟨⟩⟩ | hverdict
  obtain ⟨_, -, ⟨⟩⟩ | ⟨_, -, ⟨⟩⟩ | ⟨-, ⟨⟩⟩ | ⟨hover, -⟩ := Exchange.verdict?_cases hverdict
  exact hover

/-- No signal in `given` goes back a stage. -/
theorem Stands.ranks (hs : h.Stands (x.signals kind deadline now) us given) :
    given.Pairwise (·.rank ≤ ·.rank) := by
  obtain ⟨stages, last, rfl, hstages, -, -, hlast⟩ := hs.parts
  have hdone : ∀ s ∈ last, s.rank = Stage.done.rank := by
    intro s hs
    rcases hlast s hs with ⟨rfl, -⟩ | hverdict
    · rfl
    · exact (Exchange.outcome_of_verdict? hverdict).2
  have hstages := (x.stages_reports kind).2.sublist hstages.sublist
  refine List.pairwise_append.mpr ⟨hstages, Signal.pairwise_rank hdone, ?_⟩
  intro s _ s' hs'
  rw [hdone s' hs']
  exact s.rank_le

/-- A handle of an exchange is finished exactly when `given` has an outcome. -/
theorem Stands.finished_iff (hs : h.Stands (x.signals kind deadline now) us given) :
    h.isFinished = true ↔ ∃ s ∈ given, s.isTerminal = true := by
  obtain ⟨stages, last, rfl, hstages, -, hfinished, hlast⟩ := hs.parts
  rw [hfinished]
  constructor
  · intro hne
    obtain ⟨s, hs⟩ := List.exists_mem_of_ne_nil last hne
    refine ⟨s, List.mem_append_right _ hs, ?_⟩
    rcases hlast s hs with ⟨rfl, -⟩ | hverdict
    · rfl
    · exact (Exchange.outcome_of_verdict? hverdict).1
  -- without a last signal there are stages alone, and none of them is an outcome
  · rintro ⟨s, hs, hterminal⟩ rfl
    rw [List.append_nil] at hs
    obtain ⟨e, rfl, hstage, -⟩ := (x.stages_reports kind).1 s (hstages.subset hs)
    exact hstage (beq_iff_eq.mp hterminal)

/-! ### Handles that go on, are given up, or are finished -/

/-- A handle `h` that is finished has nothing to give out any more, and stays finished. -/
theorem answers_of_finished {h : Handle} (hphase : h.phase = .finished) (us : List HandleUse) :
    (∀ heard ∈ h.answers us, heard = .ended) ∧ (h.after us).phase = .finished := by
  induction us generalizing h with
  | nil => exact ⟨nofun, hphase⟩
  | cons u us ih =>
    obtain ⟨hstill, hnone, -⟩ := use_of_finished hphase u
    obtain ⟨hlater, hend⟩ := ih hstill
    refine ⟨?_, hend⟩
    intro heard hheard
    rcases List.mem_append.mp hheard with hheard | hheard
    · exact hnone heard (Option.mem_toList.mp hheard)
    · exact hlater heard hheard

/-- So a handle `h` that is finished gives out no more signals. -/
theorem given_of_finished {h : Handle} (hphase : h.phase = .finished) (us : List HandleUse) :
    h.given us = [] := by
  refine List.filterMap_eq_nil_iff.mpr fun heard hheard => ?_
  rw [(answers_of_finished hphase us).1 heard hheard]
  rfl

/-- A handle `h` that is finished is not given up, and stays finished without anything to give
    out. -/
theorem silent_of_finished {h : Handle} (hfinal : h.isFinished = true) :
    h.abort = h ∧ ∀ more, (∀ heard ∈ h.answers more, heard = .ended) ∧
      (h.after more).isFinished = true := by
  have hphase : h.phase = .finished := beq_iff_eq.mp hfinal
  refine ⟨abort_eq_self (by rw [hphase]; nofun), fun more => ?_⟩
  obtain ⟨hended, hstill⟩ := answers_of_finished hphase more
  exact ⟨hended, beq_iff_eq.mpr hstill⟩

/-- A handle `h` that was given up stays so until that is given out, by a question among `us`. -/
theorem after_of_aborting {h : Handle} (hphase : h.phase = .aborting) {us : List HandleUse}
    (hnext : .next ∉ us) : (h.after us).phase = .aborting := by
  induction us generalizing h with
  | nil => exact hphase
  | cons u us ih =>
    rw [List.mem_cons, not_or] at hnext
    refine ih ?_ hnext.2
    cases u with
    | elapse now => exact hphase
    | next => exact absurd rfl hnext.1
    | abort =>
      rw [use, abort_eq_self (by rw [hphase]; nofun)]
      exact hphase

/-- While only time passes along `us`, a handle keeps the signals that are there, in front of those
    that come in. -/
theorem queued_after {h : Handle} {us : List HandleUse} (hnext : .next ∉ us)
    (habort : .abort ∉ us) :
    h.queued <+: (h.after us).queued ∧ (h.after us).phase = h.phase ∧ h.given us = [] := by
  induction us generalizing h with
  | nil => exact ⟨List.prefix_rfl, rfl, rfl⟩
  | cons u us ih =>
    rw [List.mem_cons, not_or] at hnext habort
    cases u with
    | elapse now =>
      obtain ⟨hqueued, hphase, hgiven⟩ := ih (h := h.elapse now) hnext.2 habort.2
      exact ⟨(List.prefix_append _ _).trans hqueued, hphase, hgiven⟩
    | next => exact absurd rfl hnext.1
    | abort => exact absurd rfl habort.1

/-- The first question of all is answered by `s`, the first of the signals that are there. -/
theorem head?_given_of_next {h : Handle} {s : Signal} {rest : List Signal}
    (hphase : h.phase = .listening) (hqueued : h.queued = s :: rest) {before : List HandleUse}
    (hnext : .next ∉ before) (habort : .abort ∉ before) (later : List HandleUse) :
    (h.given (before ++ .next :: later)).head? = some s := by
  -- until then nothing was taken from what the handle started with
  obtain ⟨⟨arrived, hthere⟩, hstill, hnone⟩ := queued_after (h := h) hnext habort
  rw [hqueued] at hthere
  rw [given_append, hnone, given_cons, gives, answer?, Handle.use,
    next_of_queued (hstill.trans hphase) hthere.symm]
  rfl

/-- When everything that is to come of a course is there, asking `n` times gives it out, if that is
    often enough. -/
theorem given_replicate_next {h : Handle} (hphase : h.phase = .listening)
    (hupcoming : h.upcoming = []) (hcourse : Course h.queued) {n : Nat}
    (hn : h.queued.length ≤ n) : h.given (List.replicate n .next) = h.queued := by
  induction n generalizing h with
  | zero => exact (List.length_eq_zero_iff.mp (Nat.le_zero.mp hn)).symm
  | succ n ih =>
    rw [List.replicate_succ, given_cons, gives, answer?, use]
    cases hqueued : h.queued with
    | nil =>
      have hempty : h.queued.length ≤ n := by
        rw [hqueued]
        exact Nat.zero_le n
      rw [next_of_empty hphase hqueued]
      exact (ih hphase hupcoming hcourse hempty).trans hqueued
    | cons s rest =>
      rw [hqueued] at hcourse hn
      rw [next_of_queued hphase hqueued]
      cases hcourse with
      | outcome hlast =>
        rw [given_of_finished (if_pos hlast)]
        rfl
      | stage hgoes hrest =>
        have hlistening : (if s.isTerminal = true then HandlePhase.finished else .listening) =
            .listening := by
          rw [hgoes]
          rfl
        exact congrArg (s :: ·) (ih hlistening hupcoming hrest (Nat.le_of_succ_le_succ hn))

/-! ### Streams -/

/-- What the handle `h` of the exchange `x` with a `deadline` gives out through the uses `us`. -/
structure Streams (x : Exchange) (kind : TransportKind) (deadline : Nat) (h : Handle)
    (us : List HandleUse) : Prop where
  /-- The signals are the first one, the status code once at most, parts of the body, and one
      outcome at most: that the exchange was given up if it was, or the last signal of the
      exchange. -/
  order : ∃ first headers loadings last, h.given us = first ++ headers ++ loadings ++ last ∧
    first ++ headers ++ loadings <+: .opened :: x.reports kind ∧
    first <+: [.opened] ∧ headers <+: x.headersHeard kind ∧ loadings <+: x.loadingsHeard kind ∧
    headers.length ≤ 1 ∧ last.length ≤ 1 ∧
    ∀ s ∈ last, s = .aborted ∧ .abort ∈ us ∨ x.verdict? deadline = some s
  /-- No signal goes back a stage. -/
  ranks : (h.given us).Pairwise (·.rank ≤ ·.rank)
  /-- No signal tells of more than a hundred percent. -/
  progress : ∀ e, .stage e ∈ h.given us → ∀ p, e.progress = some p → p ≤ 100
  /-- The first question is answered at once, unless the exchange was given up before. -/
  opened : ∀ before later, us = before ++ .next :: later → .next ∉ before → .abort ∉ before →
    (h.given us).head? = some .opened
  /-- The handle is finished when it has given out an outcome. -/
  finished : (h.after us).isFinished = true ↔ ∃ s ∈ h.given us, s.isTerminal = true
  /-- Then it stays finished, has nothing to give out, and is not given up. -/
  silent : (h.after us).isFinished = true → (h.after us).abort = h.after us ∧
    ∀ more, (∀ heard ∈ (h.after us).answers more, heard = .ended) ∧
      (h.after (us ++ more)).isFinished = true
  /-- Before, it does not say that it has. -/
  goesOn : (h.after us).isFinished = false → (h.after us).next.1 ≠ .ended
  /-- An exchange that is given up before is heard to be: the next signal is that, whatever else is
      there and how much time passes until it is asked for. -/
  aborts : (h.after us).isFinished = false → ∀ more, .next ∉ more →
    (h.after (us ++ .abort :: more)).next.1 = .signal .aborted
  /-- The response that is given out is that of the exchange. -/
  answered : ∀ e, .stage e ∈ h.given us → e.stage = .done →
    ∃ r, x.ending = .respond r ∧ e = .done r ∧ e.response? = some r
  /-- Without a deadline nothing times out. -/
  unlimited : deadline = 0 → ∀ ms, .timeout ms ∉ h.given us
  /-- An exchange that is not given up is given out to its last signal after some time, if the
      handle is asked for that often enough. Only a deadline can cut off stages. -/
  comes : .abort ∉ us → ∃ t₀ n₀, ∀ t n, t₀ ≤ t → n₀ ≤ n → ∃ stages,
    stages <+: .opened :: x.reports kind ∧
    (x.runsOver deadline = false → stages = .opened :: x.reports kind) ∧
    h.given (us ++ .elapse t :: List.replicate n .next) = stages ++ (x.verdict? deadline).toList
  /-- So an exchange that breaks off by its deadline ends in a failure. -/
  panics : .abort ∉ us → x.ending = .panic → x.runsOver deadline = false →
    ∃ t₀ n₀, ∀ t n, t₀ ≤ t → n₀ ≤ n →
      (h.given (us ++ .elapse t :: List.replicate n .next)).getLast? =
        some (.failed "transport task ended unexpectedly")

/-- A new handle has everything to give out, so what it comes to through the uses `us` is told by
    `Stands`. -/
theorem stands_start (x : Exchange) (kind : TransportKind) (deadline now : Nat)
    (us : List HandleUse) :
    ((start x kind deadline now).after us).Stands (x.signals kind deadline now) us
      ((start x kind deadline now).given us) :=
  (Stands.listening rfl nofun nofun rfl : (start x kind deadline now).Stands _ [] []).after
    (listens_start x kind deadline now).course us

/-- There is a time by which everything in `upcoming` has come. -/
theorem exists_due (upcoming : List Moment) : ∃ t₀, ∀ m ∈ upcoming, m.time ≤ t₀ := by
  induction upcoming with
  | nil => exact ⟨0, nofun⟩
  | cons m rest ih =>
    obtain ⟨t₀, ht₀⟩ := ih
    refine ⟨max m.time t₀, List.forall_mem_cons.mpr ⟨Nat.le_max_left _ _, fun m' hm' => ?_⟩⟩
    exact Nat.le_trans (ht₀ m' hm') (Nat.le_max_right _ _)

/-- A handle of an exchange that is not given up gives out everything in the end: when enough time
    has passed and it is asked often enough, all `signals` were given. -/
theorem Stands.comes (hcourse : Course signals) (hs : h.Stands signals us given)
    (hkept : .abort ∉ us) : ∃ t₀ n₀, ∀ t n, t₀ ≤ t → n₀ ≤ n →
      given ++ h.given (.elapse t :: List.replicate n .next) = signals := by
  cases hs with
  | listening hphase _ hgoes hrest =>
    obtain ⟨t₀, ht₀⟩ := exists_due h.upcoming
    refine ⟨t₀, h.outstanding.length, fun t n ht hn => ?_⟩
    have hcourse' : Course h.outstanding := by
      rw [← hrest] at hcourse
      exact hcourse.of_append hgoes
    -- at that time everything is there
    obtain ⟨hqueued, hnone⟩ := elapse_of_due fun m hm => Nat.le_trans (ht₀ m hm) ht
    have hgiven : (h.elapse t).given (List.replicate n .next) = h.outstanding := by
      rw [← hqueued] at hcourse' hn ⊢
      exact given_replicate_next (h := h.elapse t) hphase hnone hcourse' hn
    rw [given_cons, gives, answer?, Handle.use, hgiven]
    exact hrest
  | aborting _ habort | aborted _ habort => exact absurd habort hkept
  | ended hphase _ _ _ hall =>
    refine ⟨0, 0, fun t n _ _ => ?_⟩
    rw [given_of_finished hphase, List.append_nil, hall]

/-- A new handle that is not given up gives out all signals of its exchange `x` in the end. -/
theorem comes_start (x : Exchange) (kind : TransportKind) (deadline now : Nat)
    {us : List HandleUse} (hkept : .abort ∉ us) : ∃ t₀ n₀, ∀ t n, t₀ ≤ t → n₀ ≤ n →
      (start x kind deadline now).given (us ++ .elapse t :: List.replicate n .next) =
        x.signals kind deadline now := by
  have hcourse : Course (x.signals kind deadline now) := (listens_start x kind deadline now).course
  obtain ⟨t₀, n₀, hall⟩ := (stands_start x kind deadline now us).comes hcourse hkept
  refine ⟨t₀, n₀, fun t n ht hn => ?_⟩
  rw [given_append, hall t n ht hn]

/-- **What a handle gives out.** However a handle of the exchange `x` is used, it gives out the
    signals of the exchange in order, up to its last one, or up to some stage and then that the
    exchange was given up. -/
theorem streams_start (x : Exchange) (kind : TransportKind) (deadline now : Nat)
    (us : List HandleUse) : Streams x kind deadline (start x kind deadline now) us := by
  have hstands := stands_start x kind deadline now us
  constructor
  case order => exact hstands.order
  case ranks => exact hstands.ranks
  case progress => exact fun e he p hp => hstands.progress_le he hp
  case opened =>
    rintro before later rfl hnext habort
    exact head?_given_of_next rfl rfl hnext habort later
  case finished => exact hstands.finished_iff
  case silent =>
    intro hfinal
    obtain ⟨hkeeps, hsilent⟩ := silent_of_finished hfinal
    refine ⟨hkeeps, fun more => ?_⟩
    rw [after_append]
    exact hsilent more
  case goesOn => exact next_ne_ended
  case aborts =>
    intro hopen more hnext
    rw [after_append]
    have haborting := after_of_aborting (phase_abort hopen) hnext
    exact congrArg Prod.fst (next_of_aborting haborting)
  case answered =>
    intro e he hdone
    rcases hstands.stage_cases he with ⟨hstage, -⟩ | ⟨r, hending, rfl⟩
    · exact absurd hdone hstage
    · exact ⟨r, hending, rfl, rfl⟩
  case unlimited =>
    rintro rfl ms hms
    cases hstands.runsOver_of_timeout hms
  case comes =>
    intro hkept
    obtain ⟨stages, hstages, hover, hsignals⟩ := x.signals_eq kind deadline now
    obtain ⟨t₀, n₀, hall⟩ := comes_start x kind deadline now hkept
    refine ⟨t₀, n₀, fun t n ht hn => ⟨stages, hstages, hover, ?_⟩⟩
    rw [hall t n ht hn, hsignals]
  case panics =>
    intro hkept hpanic hover
    obtain ⟨stages, -, -, hsignals⟩ := x.signals_eq kind deadline now
    obtain ⟨t₀, n₀, hall⟩ := comes_start x kind deadline now hkept
    refine ⟨t₀, n₀, fun t n ht hn => ?_⟩
    -- the course ends in the failure, since the exchange does not run over its deadline
    rw [hall t n ht hn, hsignals, Exchange.verdict?, hover, hpanic]
    exact List.getLast?_concat

end Handle

end PagePatch
