import PagePatch.Proofs.Transport.Course

namespace PagePatch

/-!
# The stages of an exchange

What is heard of an exchange that is not given up: the status code once at most, then the parts of
the body, then its ending or its deadline.

* `headersIn`, `loadingsFrom` — the stages that are heard of the steps of an exchange;
* `Exchange.reports` — the same of a whole exchange, which is nothing if it is buffered;
* `Exchange.verdict?` — the last signal of an exchange with a deadline;
* `Exchange.signals`, `Exchange.signals_eq` — everything that there is to hear, in order;
* `Exchange.prefix_reports`, `Exchange.verdict?_of_outcome` — what is heard of it first, and what is
  heard when it has come to its end.
-/

/-! ### Steps -/

/-- The stage of the status code among the `steps`: it is heard if it comes in before any part of
    the body, and only once. -/
def headersIn : List ExchangeStep → List Signal
  | .headers code :: _ => [.stage { stage := .headersReceived, status := some code }]
  | .pause _ :: rest => headersIn rest
  | .loading _ :: _ | [] => []

/-- The stages of the parts of the body. Each carries the last status code that came in before it;
    `status` is that of the first one. -/
def loadingsFrom (status : Option Nat) : List ExchangeStep → List Signal
  | .headers code :: rest => loadingsFrom (some code) rest
  | .loading progress :: rest =>
    .stage { stage := .loading, status, progress := progress.map (min · 100) } ::
      loadingsFrom status rest
  | .pause _ :: rest => loadingsFrom status rest
  | [] => []

/-- The time that a step takes: only a `pause` takes any. -/
def ExchangeStep.time : ExchangeStep → Nat
  | pause ms => ms
  | _ => 0

/-- The time that all of the steps take together, one after the other. -/
def ExchangeStep.timeOf : List ExchangeStep → Nat
  | [] => 0
  | step :: rest => step.time + timeOf rest

namespace Exchange

/-- The time from the start of the exchange `x` to its ending. -/
def duration (x : Exchange) : Nat :=
  ExchangeStep.timeOf x.steps + x.after

/-- The stage of the status code of the exchange `x`, if that is heard. -/
def headersHeard (x : Exchange) : TransportKind → List Signal
  | .streaming => headersIn x.steps
  | .buffered => []

/-- The stages of the parts of the body of the exchange `x`, if they are heard. -/
def loadingsHeard (x : Exchange) : TransportKind → List Signal
  | .streaming => loadingsFrom none x.steps
  | .buffered => []

/-- The stages that are heard of the exchange `x` between its start and its ending. -/
def reports (x : Exchange) (kind : TransportKind) : List Signal :=
  x.headersHeard kind ++ x.loadingsHeard kind

/-- Whether the exchange does not come to its ending by its `deadline`. A deadline of zero is
    none. -/
def runsOver (x : Exchange) (deadline : Nat) : Bool :=
  deadline ≠ 0 && (x.ending.signal?.isNone || deadline < x.duration)

/-- The last signal of the exchange with a `deadline`. Without a deadline an exchange that hangs has
    none. -/
def verdict? (x : Exchange) (deadline : Nat) : Option Signal :=
  if x.runsOver deadline then some (.timeout deadline) else x.ending.signal?

/-! ### What is heard of the steps -/

/-- The stage of the status code is heard once at most in `steps`. -/
theorem length_headersIn_le (steps : List ExchangeStep) : (headersIn steps).length ≤ 1 := by
  induction steps with
  | nil => exact Nat.zero_le _
  | cons step rest ih =>
    cases step with
    | headers code => exact Nat.le_refl _
    | loading progress => exact Nat.zero_le _
    | pause ms => exact ih

/-- The stage `s` of the status code carries this code. -/
theorem eq_of_mem_headersIn {steps : List ExchangeStep} {s : Signal} (h : s ∈ headersIn steps) :
    ∃ code, s = .stage { stage := .headersReceived, status := some code } := by
  induction steps with
  | nil => cases h
  | cons step rest ih =>
    cases step with
    | headers code => exact ⟨code, List.mem_singleton.mp h⟩
    | loading progress => cases h
    | pause ms => exact ih h

/-- The stage `s` of a part of the body tells of a hundred percent at most, whatever was
    reported. -/
theorem eq_of_mem_loadingsFrom {steps : List ExchangeStep} {status : Option Nat} {s : Signal}
    (h : s ∈ loadingsFrom status steps) :
    ∃ code progress, s = .stage { stage := .loading, status := code, progress } ∧
      ∀ p, progress = some p → p ≤ 100 := by
  induction steps generalizing status with
  | nil => cases h
  | cons step rest ih =>
    cases step with
    | headers code => exact ih h
    | loading progress =>
      rcases List.mem_cons.mp h with rfl | h
      · refine ⟨status, progress.map (min · 100), rfl, fun p hp => ?_⟩
        obtain ⟨q, -, rfl⟩ := Option.map_eq_some_iff.mp hp
        exact Nat.min_le_right q 100
      · exact ih h
    | pause ms => exact ih h

/-- The time behind one step that begins at `now`, the reporter by then, and what is heard of the
    step. -/
def takeStep (r : Reporter) (now : Nat) : ExchangeStep → Nat × Reporter × List Signal
  | .headers code => (now, r.headersReceived code)
  | .loading progress => (now, r.loading progress)
  | .pause ms => (now + ms, r, [])

/-- The moments of steps are those of the first step and then those of the `rest`, from the time and
    the reporter that the first one leaves. -/
theorem stepMoments_cons (r : Reporter) (now : Nat) (step : ExchangeStep)
    (rest : List ExchangeStep) :
    stepMoments r now (step :: rest) =
      let taken := takeStep r now step
      let later := stepMoments taken.2.1 taken.1 rest
      (⟨taken.1, some taken.2.1.last, taken.2.2⟩ :: later.1, later.2) := by
  cases step <;> rfl

/-- The time that `step` takes passes while it is taken. -/
theorem fst_takeStep (r : Reporter) (now : Nat) (step : ExchangeStep) :
    (takeStep r now step).1 = now + step.time := by
  cases step <;> rfl

/-- Nothing is heard of a `step` of a buffered exchange, which stays one. -/
theorem takeStep_of_buffered {r : Reporter} (hr : r.kind = .buffered) (now : Nat)
    (step : ExchangeStep) :
    (takeStep r now step).2.1.kind = .buffered ∧ (takeStep r now step).2.2 = [] := by
  have hreport : ∀ (r : Reporter) e, r.kind = .buffered →
      (r.report e).1.kind = .buffered ∧ (r.report e).2 = [] :=
    fun r e hr => ⟨hr, if_pos hr⟩
  cases step with
  | headers code =>
    simp only [takeStep, Reporter.headersReceived]
    split
    · exact ⟨hr, rfl⟩
    · exact hreport _ _ hr
  | loading progress =>
    simp only [takeStep, Reporter.loading]
    split
    · exact ⟨hr, rfl⟩
    · exact hreport _ _ hr
  | pause ms => exact ⟨hr, rfl⟩

/-- The signals of the steps of a streamed exchange. The status code is heard while nothing but the
    start was: `last` is the stage that was reported last. -/
theorem signals_stepMoments_streaming (steps : List ExchangeStep) {last : Stage}
    (hlast : last ≠ .done) (status : Option Nat) (now : Nat) :
    (stepMoments { kind := .streaming, last, status } now steps).1.flatMap Moment.signals =
      (if last = .opened then headersIn steps else []) ++ loadingsFrom status steps := by
  induction steps generalizing last status now with
  | nil => cases last <;> rfl
  | cons step rest ih =>
    cases step with
    | headers code =>
      -- the status code is heard only right behind the start
      cases last with
      | opened =>
        have hrest := ih (show Stage.headersReceived ≠ .done by decide) (some code) now
        exact congrArg (_ :: ·) hrest
      | headersReceived | loading => exact ih hlast (some code) now
      | done => exact absurd rfl hlast
    | loading progress =>
      have hrest := ih (show Stage.loading ≠ .done by decide) status now
      cases last with
      | opened | headersReceived | loading => exact congrArg (_ :: ·) hrest
      | done => exact absurd rfl hlast
    | pause ms => exact ih hlast status (now + ms)

/-- Of the `steps` of a buffered exchange nothing is heard. -/
theorem signals_stepMoments_buffered (steps : List ExchangeStep) {r : Reporter}
    (hr : r.kind = .buffered) (now : Nat) :
    (stepMoments r now steps).1.flatMap Moment.signals = [] := by
  induction steps generalizing r now with
  | nil => rfl
  | cons step rest ih =>
    obtain ⟨hkind, hquiet⟩ := takeStep_of_buffered hr now step
    simp only [stepMoments_cons, List.flatMap_cons, hquiet, ih hkind, List.append_nil]

/-- What is heard of all the steps of the exchange `x` are its `reports`. -/
theorem signals_course (x : Exchange) (kind : TransportKind) (start : Nat) :
    (x.course kind start).1.flatMap Moment.signals = x.reports kind := by
  cases kind with
  | streaming =>
    have hopened : Stage.opened ≠ .done := by decide
    exact signals_stepMoments_streaming x.steps hopened none start
  | buffered => exact signals_stepMoments_buffered x.steps rfl start

/-! ### The time that steps take -/

/-- The `steps` take the time that each of them takes. -/
theorem snd_stepMoments (steps : List ExchangeStep) (r : Reporter) (now : Nat) :
    (stepMoments r now steps).2 = now + ExchangeStep.timeOf steps := by
  induction steps generalizing r now with
  | nil => rfl
  | cons step rest ih =>
    simp only [stepMoments_cons, ih, fst_takeStep, ExchangeStep.timeOf]
    omega

/-- No step that begins at `now` or later is over before that. -/
theorem le_time_of_mem_stepMoments {steps : List ExchangeStep} {r : Reporter} {now : Nat}
    {m : Moment} (h : m ∈ (stepMoments r now steps).1) : now ≤ m.time := by
  induction steps generalizing r now with
  | nil => cases h
  | cons step rest ih =>
    have hstep := fst_takeStep r now step
    rw [stepMoments_cons] at h
    rcases List.mem_cons.mp h with rfl | h
    · show now ≤ (takeStep r now step).1
      omega
    · have hlater := ih h
      omega

/-- The steps that are over by the time `limit` are the first ones. -/
theorem filter_stepMoments_prefix (steps : List ExchangeStep) (r : Reporter) (now limit : Nat) :
    (stepMoments r now steps).1.filter (·.time ≤ limit) <+: (stepMoments r now steps).1 := by
  induction steps generalizing r now with
  | nil => exact List.nil_prefix
  | cons step rest ih =>
    simp only [stepMoments_cons]
    by_cases htime : (takeStep r now step).1 ≤ limit
    · rw [List.filter_cons_of_pos (by simpa using htime)]
      exact (List.prefix_cons_inj _).mpr (ih _ _)
    -- every step after a late one is late
    · rw [List.filter_cons_of_neg (by simpa using htime), List.filter_eq_nil_iff.mpr]
      · exact List.nil_prefix
      · intro m hm hle
        exact htime (Nat.le_trans (le_time_of_mem_stepMoments hm) (of_decide_eq_true hle))

/-! ### What is heard of an exchange -/

/-- An exchange comes to its ending by its `deadline`, or to this deadline. -/
theorem moments_of_runsOver (x : Exchange) (kind : TransportKind) (deadline start : Nat) :
    x.moments kind deadline start =
      if x.runsOver deadline then
        (x.course kind start).1.filter (·.time ≤ start + deadline) ++
          [{ time := start + deadline, signals := [.timeout deadline] }]
      else (x.course kind start).1 ++ (x.course kind start).2.toList := by
  have hlast : (x.course kind start).2 =
      x.ending.signal?.map fun s => { time := start + x.duration, signals := [s] } := by
    show x.ending.signal?.map _ = _
    rw [snd_stepMoments, Nat.add_assoc]
    rfl
  -- whether the ending comes in time is asked of the moment of the ending, so it is compared with
  -- `runsOver`
  have hover : (deadline = 0 || (x.course kind start).2.any (·.time ≤ start + deadline)) =
      !x.runsOver deadline := by
    rw [hlast]
    unfold runsOver
    cases x.ending.signal? with
    | none => by_cases hzero : deadline = 0 <;> simp [hzero]
    | some s =>
      have hlate : decide (x.duration ≤ deadline) = !decide (deadline < x.duration) := by
        rw [← decide_not, decide_eq_decide, Nat.not_lt]
      by_cases hzero : deadline = 0 <;> simp [hzero, hlate]
  unfold moments
  simp only [hover]
  cases x.runsOver deadline <;> rfl

/-- What is heard of the exchange `x` behind its start: its stages, all of them if it comes to its
    ending by its deadline, and its last signal. -/
theorem signals_moments (x : Exchange) (kind : TransportKind) (deadline start : Nat) :
    ∃ stages, stages <+: x.reports kind ∧
      (x.runsOver deadline = false → stages = x.reports kind) ∧
      (x.moments kind deadline start).flatMap Moment.signals =
        stages ++ (x.verdict? deadline).toList := by
  rw [moments_of_runsOver, verdict?]
  cases x.runsOver deadline with
  | true =>
    refine ⟨_, ?_, nofun, List.flatMap_append⟩
    rw [← signals_course x kind start]
    -- of the steps only those are heard that are over in time
    obtain ⟨late, hlate⟩ := filter_stepMoments_prefix x.steps { kind } start (start + deadline)
    exact ⟨late.flatMap Moment.signals, by rw [← List.flatMap_append]; exact congrArg _ hlate⟩
  | false =>
    refine ⟨_, List.prefix_rfl, fun _ => rfl, ?_⟩
    rw [if_neg Bool.false_ne_true, List.flatMap_append, signals_course]
    refine congrArg (x.reports kind ++ ·) ?_
    unfold course
    cases x.ending.signal? <;> rfl

end Exchange

/-! ### The order of signals -/

/-- How far an exchange has come when the signal is heard, as the rank of its `stage` tells. -/
def Signal.rank : Signal → Nat
  | stage e => e.stage.rank
  | timeout _ | failed _ | aborted => Stage.done.rank

/-- No signal `s` comes after the last stage. -/
theorem Signal.rank_le (s : Signal) : s.rank ≤ Stage.done.rank := by
  rcases s with ⟨e⟩ | _ | _ | _
  · cases h : e.stage <;> simp [rank, h, Stage.rank]
  all_goals exact Nat.le_refl _

/-- Signals of one rank `n` are in order. -/
theorem Signal.pairwise_rank {signals : List Signal} {n : Nat} (h : ∀ s ∈ signals, s.rank = n) :
    signals.Pairwise (·.rank ≤ ·.rank) := by
  refine List.pairwise_iff_forall_sublist.mpr ?_
  intro s s' hs
  rw [h s (hs.subset (by simp)), h s' (hs.subset (by simp))]

/-- The signal that comes first: the exchange has started, and nothing of its answer is known. -/
def Signal.opened : Signal :=
  .stage { stage := .opened }

namespace Exchange

variable (x : Exchange) (kind : TransportKind)

/-- Everything that there is to hear of the exchange `x` from its start on. -/
def signals (deadline now : Nat) : List Signal :=
  .opened :: (x.moments kind deadline now).flatMap Moment.signals

/-- The stage of the status code is heard once at most, whatever `kind` of exchange it is. -/
theorem length_headersHeard_le : (x.headersHeard kind).length ≤ 1 := by
  cases kind with
  | streaming => exact length_headersIn_le x.steps
  | buffered => exact Nat.zero_le 1

/-- The stage `s` that is heard of it carries the status code. -/
theorem eq_of_mem_headersHeard {x : Exchange} {kind : TransportKind} {s : Signal}
    (h : s ∈ x.headersHeard kind) :
    ∃ code, s = .stage { stage := .headersReceived, status := some code } := by
  cases kind with
  | streaming => exact eq_of_mem_headersIn h
  | buffered => cases h

/-- The stage `s` of a part of the body tells of a hundred percent at most. -/
theorem eq_of_mem_loadingsHeard {x : Exchange} {kind : TransportKind} {s : Signal}
    (h : s ∈ x.loadingsHeard kind) :
    ∃ code progress, s = .stage { stage := .loading, status := code, progress } ∧
      ∀ p, progress = some p → p ≤ 100 := by
  cases kind with
  | streaming => exact eq_of_mem_loadingsFrom h
  | buffered => cases h

/-- What is heard before the last signal of `x` are stages before the last one, in the order of
    their ranks. -/
theorem stages_reports :
    (∀ s ∈ .opened :: x.reports kind, ∃ e, s = .stage e ∧ e.stage ≠ .done ∧
        ∀ p, e.progress = some p → p ≤ 100) ∧
      (.opened :: x.reports kind).Pairwise (·.rank ≤ ·.rank) := by
  have hheaders : ∀ s ∈ x.headersHeard kind, s.rank = 1 := by
    intro s hs
    obtain ⟨code, rfl⟩ := eq_of_mem_headersHeard hs
    rfl
  have hloadings : ∀ s ∈ x.loadingsHeard kind, s.rank = 2 := by
    intro s hs
    obtain ⟨code, progress, rfl, -⟩ := eq_of_mem_loadingsHeard hs
    rfl
  constructor
  · intro s hs
    rcases List.mem_cons.mp hs with rfl | hs
    · exact ⟨_, rfl, nofun, nofun⟩
    rcases List.mem_append.mp hs with hs | hs
    · obtain ⟨code, rfl⟩ := eq_of_mem_headersHeard hs
      exact ⟨_, rfl, nofun, nofun⟩
    · obtain ⟨code, progress, rfl, hprogress⟩ := eq_of_mem_loadingsHeard hs
      exact ⟨_, rfl, nofun, hprogress⟩
  · refine List.pairwise_cons.mpr ⟨fun s _ => Nat.zero_le s.rank, ?_⟩
    refine List.pairwise_append.mpr
      ⟨Signal.pairwise_rank hheaders, Signal.pairwise_rank hloadings, ?_⟩
    intro s hs s' hs'
    rw [hheaders s hs, hloadings s' hs']
    exact Nat.le_succ 1

/-- The last signal of an exchange with a `deadline` tells how it ended: with a response, with a
    failure, by breaking off, or by its deadline. -/
theorem verdict?_cases {x : Exchange} {deadline : Nat} {s : Signal}
    (h : x.verdict? deadline = some s) :
    (∃ r, x.ending = .respond r ∧ s = .stage (.done r)) ∨
      (∃ e, x.ending = .fail e ∧ s = .failed e.message) ∨
      (x.ending = .panic ∧ s = .failed "transport task ended unexpectedly") ∨
      (x.runsOver deadline = true ∧ s = .timeout deadline) := by
  unfold verdict? at h
  split at h
  · rename_i hover
    cases h
    exact .inr (.inr (.inr ⟨hover, rfl⟩))
  · cases hending : x.ending with
    | respond r =>
      rw [hending] at h
      cases h
      exact .inl ⟨r, rfl, rfl⟩
    | fail e =>
      rw [hending] at h
      cases h
      exact .inr (.inl ⟨e, rfl, rfl⟩)
    | panic =>
      rw [hending] at h
      cases h
      exact .inr (.inr (.inl ⟨rfl, rfl⟩))
    | hang =>
      rw [hending] at h
      cases h

/-- The last signal `s` of the exchange `x` is an outcome. -/
theorem outcome_of_verdict? {x : Exchange} {deadline : Nat} {s : Signal}
    (h : x.verdict? deadline = some s) : s.isTerminal = true ∧ s.rank = Stage.done.rank := by
  rcases verdict?_cases h with ⟨r, -, rfl⟩ | ⟨e, -, rfl⟩ | ⟨-, rfl⟩ | ⟨-, rfl⟩ <;> exact ⟨rfl, rfl⟩

/-- Everything that there is to hear of the exchange `x`: its start, its `stages`, and its last
    signal. -/
theorem signals_eq (deadline now : Nat) :
    ∃ stages, stages <+: .opened :: x.reports kind ∧
      (x.runsOver deadline = false → stages = .opened :: x.reports kind) ∧
      x.signals kind deadline now = stages ++ (x.verdict? deadline).toList := by
  obtain ⟨stages, hstages, hall, hmoments⟩ := x.signals_moments kind deadline now
  refine ⟨.opened :: stages, (List.prefix_cons_inj _).mpr hstages, fun hover => ?_, ?_⟩
  · rw [hall hover]
  · rw [signals, hmoments]
    rfl

/-- Stages that are heard first are those of the exchange: the signals `given` are a beginning of
    what there is to hear, and no outcome is among them. -/
theorem prefix_reports {x : Exchange} {kind : TransportKind} {deadline now : Nat}
    {given : List Signal} (hgiven : given <+: x.signals kind deadline now)
    (hgoes : ∀ s ∈ given, s.isTerminal = false) : given <+: .opened :: x.reports kind := by
  obtain ⟨stages, hstages, -, hsignals⟩ := x.signals_eq kind deadline now
  rw [hsignals] at hgiven
  cases hverdict : x.verdict? deadline with
  | none =>
    rw [hverdict, Option.toList_none, List.append_nil] at hgiven
    exact hgiven.trans hstages
  | some last =>
    rw [hverdict, Option.toList_some] at hgiven
    rcases List.prefix_concat_iff.mp hgiven with rfl | hgiven
    -- the last signal is an outcome, and none was given out
    · have hterminal := (outcome_of_verdict? hverdict).1
      rw [hgoes last (by simp)] at hterminal
      cases hterminal
    · exact hgiven.trans hstages

/-- What is heard up to an outcome `last` is everything, and the outcome is the last signal of the
    exchange. -/
theorem verdict?_of_outcome {x : Exchange} {kind : TransportKind} {deadline now : Nat}
    {stages : List Signal} {last : Signal}
    (hsignals : stages ++ [last] = x.signals kind deadline now) (hlast : last.isTerminal = true) :
    stages <+: .opened :: x.reports kind ∧ x.verdict? deadline = some last := by
  obtain ⟨first, hfirst, -, heq⟩ := x.signals_eq kind deadline now
  rw [heq] at hsignals
  cases hverdict : x.verdict? deadline with
  | none =>
    -- without a last signal there are stages alone
    rw [hverdict, Option.toList_none, List.append_nil] at hsignals
    have hmem : last ∈ first := hsignals ▸ List.mem_concat_self
    obtain ⟨e, rfl, hstage, -⟩ := (x.stages_reports kind).1 last (hfirst.subset hmem)
    exact absurd (beq_iff_eq.mp hlast) hstage
  | some last' =>
    rw [hverdict, Option.toList_some] at hsignals
    obtain ⟨rfl, hlast'⟩ := List.append_inj' hsignals rfl
    cases hlast'
    exact ⟨hfirst, rfl⟩

end Exchange

end PagePatch
