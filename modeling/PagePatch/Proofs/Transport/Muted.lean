import PagePatch.Proofs.Transport.Stream

namespace PagePatch

/-!
# Buffered exchanges

A buffered exchange is a streamed one of which the stages between its start and its end are not
heard. Nothing else is different: it takes the same steps at the same times, the same last stage is
reported inside it, and it comes to the same outcome.

* `Signal.isBetween`, `muted` — the stages in between, and signals without them;
* `Reporter.mute`, `Moment.mute`, `Handle.mute` — a reporter, a moment and a handle without them;
* `Exchange.moments_buffered` — what is heard of a buffered exchange;
* `Handle.use_mute` — a use of a handle is the same use of the muted one, or that does not notice
  it;
* `Handle.audible`, `Handle.after_audible` — the uses that it does notice, and where they lead;
* `Handle.mutes_start` — what the handle of a buffered exchange gives out.
-/

/-! ### Stages in between -/

/-- Whether a stage lies between the start of an exchange, `opened`, and its end, `done`. -/
def Stage.isBetween : Stage → Bool
  | headersReceived | loading => true
  | opened | done => false

/-- Whether a signal is a `stage` between the start and the end of an exchange. -/
def Signal.isBetween : Signal → Bool
  | stage e => e.stage.isBetween
  | timeout _ | failed _ | aborted => false

/-- The `signals` without the stages in between, which is all that a buffered exchange lets hear. -/
def muted (signals : List Signal) : List Signal :=
  signals.filter (!·.isBetween)

@[simp] theorem muted_nil : muted [] = [] := rfl

@[simp] theorem muted_append (a b : List Signal) : muted (a ++ b) = muted a ++ muted b :=
  List.filter_append a b

theorem muted_cons (s : Signal) (rest : List Signal) :
    muted (s :: rest) = muted [s] ++ muted rest :=
  muted_append [s] rest

/-- Of `signals` that are all stages in between nothing is left. -/
theorem muted_eq_nil {signals : List Signal} (h : ∀ s ∈ signals, s.isBetween = true) :
    muted signals = [] := by
  refine List.filter_eq_nil_iff.mpr fun s hs => ?_
  rw [h s hs]
  exact Bool.false_ne_true

/-- The `signals` among which no stage is in between are left as they are. -/
theorem muted_eq_self {signals : List Signal} (h : ∀ s ∈ signals, s.isBetween = false) :
    muted signals = signals := by
  refine List.filter_eq_self.mpr fun s hs => ?_
  rw [h s hs]
  rfl

/-- A signal `s` with which an exchange ends does not lie in between. -/
theorem Signal.not_isBetween_of_isTerminal {s : Signal} (h : s.isTerminal = true) :
    s.isBetween = false := by
  rcases s with ⟨e⟩ | _ | _ | _
  · have hdone : e.stage = .done := beq_iff_eq.mp h
    rw [isBetween, hdone]
    rfl
  all_goals rfl

/-! ### Steps -/

/-- The reporter `r` that has come as far, but of an exchange that is buffered. -/
def Reporter.mute (r : Reporter) : Reporter :=
  { r with kind := .buffered }

namespace Reporter

@[simp] theorem mute_last (r : Reporter) : r.mute.last = r.last := rfl

@[simp] theorem mute_status (r : Reporter) : r.mute.status = r.status := rfl

/-- A report of a stage `e` in between goes on in the same way, and is not heard. -/
theorem report_mute (r : Reporter) {e : TransportEvent} (he : e.stage.isBetween = true) :
    r.mute.report e = ((r.report e).1.mute, muted (r.report e).2) := by
  have hquiet : muted (r.report e).2 = [] := by
    refine muted_eq_nil fun s hs => ?_
    unfold report at hs
    split at hs
    · cases hs
    · rw [List.mem_singleton.mp hs]
      exact he
  rw [hquiet]
  rfl

/-- A muted reporter has come as far as `r`, so that it drops the same reports of the status
    code. -/
theorem headersReceived_mute (r : Reporter) (code : Nat) :
    r.mute.headersReceived code =
      ((r.headersReceived code).1.mute, muted (r.headersReceived code).2) := by
  by_cases hlate : Stage.headersReceived.rank ≤ r.last.rank
  · simp only [headersReceived, mute_last, hlate, if_true]
    rfl
  · simp only [headersReceived, mute_last, hlate, if_false]
    exact report_mute { r with status := some code } rfl

/-- Likewise a muted reporter drops the same reports of parts of the body, by `progress`. -/
theorem loading_mute (r : Reporter) (progress : Option Nat) :
    r.mute.loading progress = ((r.loading progress).1.mute, muted (r.loading progress).2) := by
  by_cases hlate : Stage.loading.rank < r.last.rank
  · simp only [loading, mute_last, hlate, if_true]
    rfl
  · simp only [loading, mute_last, mute_status, hlate, if_false]
    exact report_mute r rfl

end Reporter

/-- The moment `m` without the stages in between; its time and the stage that was reported stay. -/
def Moment.mute (m : Moment) : Moment :=
  { m with signals := muted m.signals }

/-- The signal `s` of an ending is an outcome. -/
theorem ExchangeEnding.isTerminal_of_signal? {x : ExchangeEnding} {s : Signal}
    (h : x.signal? = some s) : s.isTerminal = true := by
  cases x <;> cases h <;> rfl

namespace Exchange

/-- A muted reporter takes the `step` in the same time, and comes as far. -/
theorem takeStep_mute (r : Reporter) (now : Nat) (step : ExchangeStep) :
    takeStep r.mute now step =
      ((takeStep r now step).1, (takeStep r now step).2.1.mute,
        muted (takeStep r now step).2.2) := by
  cases step with
  | headers code => exact congrArg (Prod.mk now) (r.headersReceived_mute code)
  | loading progress => exact congrArg (Prod.mk now) (r.loading_mute progress)
  | pause ms => rfl

/-- The `steps` of a muted reporter are taken at the same times, with the same stages reported. -/
theorem stepMoments_mute (steps : List ExchangeStep) (r : Reporter) (now : Nat) :
    stepMoments r.mute now steps =
      ((stepMoments r now steps).1.map Moment.mute, (stepMoments r now steps).2) := by
  induction steps generalizing r now with
  | nil => rfl
  | cons step rest ih =>
    simp only [stepMoments_cons, takeStep_mute, ih, List.map_cons]
    rfl

/-- The course of the exchange `x` when it is buffered is that of a streamed one, muted. -/
theorem course_buffered (x : Exchange) (start : Nat) :
    x.course .buffered start =
      ((x.course .streaming start).1.map Moment.mute,
        (x.course .streaming start).2.map Moment.mute) := by
  have hsteps : stepMoments { kind := .buffered } start x.steps = _ :=
    stepMoments_mute x.steps { kind := .streaming } start
  simp only [course, hsteps, Option.map_map]
  congr 1
  -- the ending is heard in both
  cases hending : x.ending.signal? with
  | none => rfl
  | some s =>
    have hheard : muted [s] = [s] := muted_eq_self fun s' hs' => by
      rw [List.mem_singleton.mp hs']
      exact Signal.not_isBetween_of_isTerminal (ExchangeEnding.isTerminal_of_signal? hending)
    simp [Moment.mute, hheard]

/-- **The moments of a buffered exchange.** The same happens in `x` at the same times as when it is
    streamed, and the same last stage is reported by then; only the stages in between are not
    heard. -/
theorem moments_buffered (x : Exchange) (deadline start : Nat) :
    x.moments .buffered deadline start =
      (x.moments .streaming deadline start).map Moment.mute := by
  rw [moments_of_runsOver, moments_of_runsOver, course_buffered]
  cases x.runsOver deadline with
  | true =>
    -- the deadline cuts off the same moments, and that it does is heard in both
    have htime : (fun m : Moment => decide (m.time ≤ start + deadline)) ∘ Moment.mute =
        fun m => decide (m.time ≤ start + deadline) := rfl
    simp only [if_true, List.map_append, List.filter_map, htime]
    rfl
  | false =>
    simp only [Bool.false_eq_true, if_false, List.map_append]
    cases (x.course .streaming start).2 <;> rfl

/-- What is heard of muted `moments` are the signals of the moments, muted. -/
theorem flatMap_signals_mute (moments : List Moment) :
    (moments.map Moment.mute).flatMap Moment.signals =
      muted (moments.flatMap Moment.signals) := by
  induction moments with
  | nil => rfl
  | cons m rest ih =>
    rw [List.map_cons, List.flatMap_cons, List.flatMap_cons, muted_append, ih]
    rfl

/-- Everything that there is to hear of `x` when it is buffered is what there is to hear of a
    streamed one, muted. -/
theorem signals_buffered (x : Exchange) (deadline now : Nat) :
    x.signals .buffered deadline now = muted (x.signals .streaming deadline now) := by
  rw [signals, signals, moments_buffered, flatMap_signals_mute, muted_cons]
  rfl

end Exchange

/-! ### Handles -/

namespace Handle

/-- The handle `h` as it is if it does not hear the stages in between. -/
def mute (h : Handle) : Handle :=
  { h with queued := muted h.queued, upcoming := h.upcoming.map Moment.mute }

@[simp] theorem mute_phase (h : Handle) : h.mute.phase = h.phase := rfl

@[simp] theorem mute_queued (h : Handle) : h.mute.queued = muted h.queued := rfl

@[simp] theorem mute_reported (h : Handle) : h.mute.reported = h.reported := rfl

/-- The handle of `x` when it is buffered is that of a streamed one, muted. -/
theorem start_buffered (x : Exchange) (deadline now : Nat) :
    start x .buffered deadline now = (start x .streaming deadline now).mute := by
  unfold start mute
  rw [Exchange.moments_buffered]
  rfl

/-- Time passes for a muted handle as for the handle `h` itself. -/
theorem elapse_mute (h : Handle) (now : Nat) : h.mute.elapse now = (h.elapse now).mute := by
  have htime : (fun m : Moment => decide (m.time ≤ now)) ∘ Moment.mute =
      fun m => decide (m.time ≤ now) := rfl
  have hstage : Moment.stage ∘ Moment.mute = Moment.stage := rfl
  simp only [elapse, mute, List.takeWhile_map, List.dropWhile_map, htime, muted_append,
    Exchange.flatMap_signals_mute, List.filterMap_map, hstage]

/-- A muted handle is given up as the handle `h` itself is. -/
theorem abort_mute (h : Handle) : h.mute.abort = h.abort.mute := by
  by_cases hphase : h.phase = .listening
  · have hphase' : h.mute.phase = .listening := hphase
    unfold abort
    rw [if_pos hphase, if_pos hphase']
    rfl
  · have hphase' : h.mute.phase ≠ .listening := hphase
    rw [abort_eq_self hphase, abort_eq_self hphase']

/-- Whether the use `u` is answered by a stage in between. -/
def skips (h : Handle) (u : HandleUse) : Bool :=
  (h.gives u).any Signal.isBetween

/-- What a use `u` of the handle `h` is for the muted one. -/
inductive Notice (h : Handle) (u : HandleUse) : Prop
  /-- A question that is answered by a stage in between: the muted handle does not notice it. -/
  | skipped (hskips : h.skips u = true) (hnext : u = .next) (hsame : (h.use u).mute = h.mute)
      (hquiet : muted (h.gives u) = []) (hless : (h.use u).queued.length < h.queued.length)
  /-- Anything else is the same use of the muted handle, with the same answer. -/
  | noticed (hskips : h.skips u = false) (hsame : (h.use u).mute = h.mute.use u)
      (hanswer : h.mute.answer? u = h.answer? u) (hheard : muted (h.gives u) = h.gives u)

/-- A question is noticed if both handles give the same answer `heard`, and this is no stage in
    between. -/
theorem notice_of_same {h h' : Handle} {heard : Heard} (hnext : h.next = (heard, h'))
    (hmute : h.mute.next = (heard, h'.mute))
    (hbetween : ∀ s, heard.signal? = some s → s.isBetween = false) : h.Notice .next := by
  have hgives : h.gives .next = heard.signal?.toList := by
    rw [gives, answer?, hnext]
    rfl
  have hall : ∀ s ∈ h.gives .next, s.isBetween = false := by
    rw [hgives]
    exact fun s hs => hbetween s (Option.mem_toList.mp hs)
  refine .noticed ?_ ?_ ?_ (muted_eq_self hall)
  · refine List.any_eq_false.mpr fun s hs => ?_
    rw [hall s hs]
    exact Bool.false_ne_true
  · rw [use, use, hnext, hmute]
  · rw [answer?, answer?, hnext, hmute]

/-- A question that is answered by a stage `s` in between is not noticed. -/
theorem notice_of_between {h : Handle} {s : Signal} {rest : List Signal}
    (hphase : h.phase = .listening) (hqueued : h.queued = s :: rest) (hs : s.isBetween = true) :
    h.Notice .next := by
  -- it is not the last signal, so that the handle goes on listening
  have hgoes : s.isTerminal = false := by
    cases hlast : s.isTerminal with
    | false => rfl
    | true => cases hs.symm.trans (Signal.not_isBetween_of_isTerminal hlast)
  have hnext := next_of_queued hphase hqueued
  have hgives : h.gives .next = [s] := by
    rw [gives, answer?, hnext]
    rfl
  have hdropped : muted [s] = [] := muted_eq_nil fun s' hs' => List.mem_singleton.mp hs' ▸ hs
  refine .skipped ?_ rfl ?_ ?_ ?_
  · rw [skips, hgives, List.any_cons, hs]
    rfl
  · have hqueue : muted h.queued = muted rest := by
      rw [hqueued, muted_cons, hdropped, List.nil_append]
    rw [use, hnext, hgoes]
    simp only [mute, Bool.false_eq_true, if_false, hphase, hqueue]
  · rw [hgives, hdropped]
  · rw [use, hnext, hqueued]
    exact Nat.lt_succ_self _

/-- A question of `h` for the next signal is noticed unless it is answered by a stage in between. -/
theorem next_mute (h : Handle) : h.Notice .next := by
  cases hphase : h.phase with
  | finished =>
    have hended : ∀ h : Handle, h.phase = .finished → h.next = (.ended, h) := by
      intro h hphase
      simp only [next, hphase]
    refine notice_of_same (hended h hphase) (hended h.mute hphase) ?_
    rintro _ ⟨⟩
  | aborting =>
    refine notice_of_same (next_of_aborting hphase) (next_of_aborting (h := h.mute) hphase) ?_
    rintro _ ⟨⟩
    rfl
  | listening =>
    have hphase' : h.mute.phase = .listening := hphase
    cases hqueued : h.queued with
    | nil =>
      have hqueued' : h.mute.queued = [] := by rw [mute_queued, hqueued, muted_nil]
      refine notice_of_same (next_of_empty hphase hqueued) (next_of_empty hphase' hqueued') ?_
      rintro _ ⟨⟩
    | cons s rest =>
      -- the signal in front of the queue is heard by the muted handle as well, or left out of its
      -- queue
      cases hs : s.isBetween with
      | true => exact notice_of_between hphase hqueued hs
      | false =>
        have hkept : muted [s] = [s] :=
          muted_eq_self fun s' hs' => List.mem_singleton.mp hs' ▸ hs
        have hqueued' : h.mute.queued = s :: muted rest := by
          rw [mute_queued, hqueued, muted_cons, hkept]
          rfl
        refine notice_of_same (next_of_queued hphase hqueued) (next_of_queued hphase' hqueued') ?_
        rintro _ ⟨⟩
        exact hs

/-- **One use.** A use `u` of a handle is the same use of the muted one, or is not noticed there. -/
theorem use_mute (h : Handle) (u : HandleUse) : h.Notice u := by
  cases u with
  | next => exact h.next_mute
  | elapse now => exact .noticed rfl (h.elapse_mute now).symm rfl rfl
  | abort => exact .noticed rfl h.abort_mute.symm rfl rfl

/-- The uses among `us` that the muted handle notices. -/
def audible (h : Handle) : List HandleUse → List HandleUse
  | [] => []
  | u :: us => if h.skips u then (h.use u).audible us else u :: (h.use u).audible us

theorem audible_of_skips {h : Handle} {u : HandleUse} (hskips : h.skips u = true)
    (us : List HandleUse) : h.audible (u :: us) = (h.use u).audible us :=
  if_pos hskips

theorem audible_of_not_skips {h : Handle} {u : HandleUse} (hskips : h.skips u = false)
    (us : List HandleUse) : h.audible (u :: us) = u :: (h.use u).audible us := by
  rw [audible, hskips]
  rfl

/-- **Any uses.** Behind the uses that it notices the muted handle has come as far as `h` behind all
    of them, and it has given out the same signals, but for the stages in between. -/
theorem after_audible (h : Handle) (us : List HandleUse) :
    (h.after us).mute = h.mute.after (h.audible us) ∧
      h.mute.given (h.audible us) = muted (h.given us) := by
  induction us generalizing h with
  | nil => exact ⟨rfl, rfl⟩
  | cons u us ih =>
    obtain ⟨hafter, hgiven⟩ := ih (h.use u)
    rw [given_cons, muted_append]
    cases h.use_mute u with
    | skipped hskips hnext hsame hquiet =>
      rw [audible_of_skips hskips, hquiet, List.nil_append, ← hsame]
      exact ⟨hafter, hgiven⟩
    | noticed hskips hsame hanswer hheard =>
      have hgives : h.mute.gives u = h.gives u := by rw [gives, hanswer, gives]
      rw [audible_of_not_skips hskips, given_cons, ← hsame, hgiven, hgives, hheard]
      refine ⟨?_, rfl⟩
      show _ = (h.mute.use u).after _
      rw [← hsame]
      exact hafter

/-- Everything but questions for the next signal is noticed, so `audible` drops no other use. -/
theorem filter_audible (h : Handle) (us : List HandleUse) :
    (h.audible us).filter (· ≠ .next) = us.filter (· ≠ .next) := by
  induction us generalizing h with
  | nil => rfl
  | cons u us ih =>
    cases h.use_mute u with
    | skipped hskips hnext =>
      subst hnext
      rw [audible_of_skips hskips, ih]
      rfl
    | noticed hskips =>
      rw [audible_of_not_skips hskips, List.filter_cons, List.filter_cons, ih]

/-- After as many questions as there are stages in between at hand, the next use `u` is noticed. -/
theorem exists_not_skips (h : Handle) (u : HandleUse) :
    ∃ n, (h.after (List.replicate n .next)).skips u = false ∧ ∀ us,
      h.audible (List.replicate n .next ++ us) =
        (h.after (List.replicate n .next)).audible us := by
  -- on the number of signals at hand, as each question takes one of them
  induction hlength : h.queued.length using Nat.strong_induction_on generalizing h with
  | _ length ih =>
    cases h.use_mute u with
    | noticed hskips => exact ⟨0, hskips, fun _ => rfl⟩
    | skipped hskips hnext _ _ hless =>
      subst hnext
      obtain ⟨n, hnotice, haudible⟩ := ih _ (hlength ▸ hless) (h.use .next) rfl
      refine ⟨n + 1, hnotice, fun us => ?_⟩
      rw [List.replicate_succ, List.cons_append, audible_of_skips hskips, haudible]
      rfl

/-- The muted handle can be used in any way: the uses `vs` are what it notices of some uses `us` of
    the handle. -/
theorem exists_audible_eq (h : Handle) (vs : List HandleUse) : ∃ us, h.audible us = vs := by
  -- each use is put behind the questions that are left out in front of it
  induction vs generalizing h with
  | nil => exact ⟨[], rfl⟩
  | cons v vs ih =>
    obtain ⟨n, hskips, haudible⟩ := h.exists_not_skips v
    obtain ⟨us, hus⟩ := ih ((h.after (List.replicate n .next)).use v)
    refine ⟨List.replicate n .next ++ v :: us, ?_⟩
    rw [haudible, audible_of_not_skips hskips, hus]

/-! ### What is reported inside an exchange -/

/-- A question of `h` for the next signal leaves alone what is to come and what was reported. -/
theorem next_course (h : Handle) :
    h.next.2.upcoming = h.upcoming ∧ h.next.2.reported = h.reported := by
  unfold next
  split <;> exact ⟨rfl, rfl⟩

/-- The stages that are reported inside an exchange depend on the time that passes, not on the
    questions that are asked: these can be left out of `us`. -/
theorem reported_after {h h' : Handle} (hupcoming : h.upcoming = h'.upcoming)
    (hreported : h.reported = h'.reported) {us : List HandleUse} (hkept : .abort ∉ us) :
    (h.after us).reported = (h'.after (us.filter (· ≠ .next))).reported := by
  induction us generalizing h h' with
  | nil => exact hreported
  | cons u us ih =>
    rw [List.mem_cons, not_or] at hkept
    cases u with
    | abort => exact absurd rfl hkept.1
    | next =>
      obtain ⟨hup, hrep⟩ := h.next_course
      exact ih (h := h.next.2) (hup.trans hupcoming) (hrep.trans hreported) hkept.2
    | elapse now =>
      have hup : (h.elapse now).upcoming = (h'.elapse now).upcoming := by
        simp only [elapse, hupcoming]
      have hrep : (h.elapse now).reported = (h'.elapse now).reported := by
        simp only [elapse, hupcoming, hreported]
      exact ih hup hrep hkept.2

/-- Inside a buffered exchange the same stages are reported, if the same time passes in `us` and
    `vs`. -/
theorem reported_mute (h : Handle) {us vs : List HandleUse} (hus : .abort ∉ us)
    (hvs : .abort ∉ vs) (htimes : us.filter (· ≠ .next) = vs.filter (· ≠ .next)) :
    (h.mute.after vs).reported = (h.after us).reported := by
  -- both are compared with the muted handle while only the time passes
  have hmute : (h.after us).reported = (h.mute.after (h.audible us)).reported := by
    rw [← (h.after_audible us).1, mute_reported]
  have haudible : .abort ∉ h.audible us := by
    intro habort
    have hmem : HandleUse.abort ∈ (h.audible us).filter (· ≠ .next) :=
      List.mem_filter.mpr ⟨habort, rfl⟩
    rw [filter_audible] at hmem
    exact hus (List.mem_filter.mp hmem).1
  rw [hmute, reported_after rfl rfl hvs, reported_after rfl rfl haudible, filter_audible, htimes]

/-! ### Streams -/

/-- What is heard of the exchange `x` when it is streamed, and what when it is buffered. -/
structure Mutes (x : Exchange) (deadline now : Nat) : Prop where
  /-- When both are heard to the end, however the two handles were used before: the streamed
      exchange is heard to start, to go through stages in between and to come to its outcome, the
      buffered one to start and to come to the same outcome. -/
  stream : ∀ us vs, .abort ∉ us → .abort ∉ vs → ∃ t₀ n₀, ∀ t n, t₀ ≤ t → n₀ ≤ n →
    let streamed :=
      (start x .streaming deadline now).given (us ++ .elapse t :: List.replicate n .next)
    let buffered :=
      (start x .buffered deadline now).given (vs ++ .elapse t :: List.replicate n .next)
    buffered = muted streamed ∧ buffered = .opened :: (x.verdict? deadline).toList ∧
      ∃ between, streamed = .opened :: between ++ (x.verdict? deadline).toList ∧
        ∀ s ∈ between, s.isBetween = true
  /-- On the way: every use of the streamed exchange is the same use of the buffered one, but for
      the questions that are answered by a stage in between. -/
  follows : ∀ us, ((start x .streaming deadline now).after us).mute =
      (start x .buffered deadline now).after ((start x .streaming deadline now).audible us) ∧
    (start x .buffered deadline now).given ((start x .streaming deadline now).audible us) =
      muted ((start x .streaming deadline now).given us)
  /-- There is no other way to use the buffered exchange. -/
  covers : ∀ vs, ∃ us, (start x .streaming deadline now).audible us = vs
  /-- Inside both exchanges the same last stages are reported, one behind each step, at the same
      times. -/
  stages : (x.moments .buffered deadline now).map (fun m => (m.time, m.stage)) =
    (x.moments .streaming deadline now).map fun m => (m.time, m.stage)
  /-- So as long as the same time passes the same stages were reported. -/
  reported : ∀ us vs, .abort ∉ us → .abort ∉ vs →
    us.filter (· ≠ .next) = vs.filter (· ≠ .next) →
      ((start x .buffered deadline now).after vs).reported =
        ((start x .streaming deadline now).after us).reported

/-- The stages that are heard of the exchange `x` behind its start lie in between. -/
theorem isBetween_of_mem_reports {x : Exchange} {kind : TransportKind} {s : Signal}
    (h : s ∈ x.reports kind) : s.isBetween = true := by
  rcases List.mem_append.mp h with h | h
  · obtain ⟨code, rfl⟩ := Exchange.eq_of_mem_headersHeard h
    rfl
  · obtain ⟨code, progress, rfl, -⟩ := Exchange.eq_of_mem_loadingsHeard h
    rfl

/-- **A buffered exchange** `x` is heard as a streamed one, without the stages between its start and
    its end. -/
theorem mutes_start (x : Exchange) (deadline now : Nat) : Mutes x deadline now := by
  have hstart := start_buffered x deadline now
  constructor
  case stream =>
    intro us vs hus hvs
    obtain ⟨t₁, n₁, hstreamed⟩ := comes_start x .streaming deadline now hus
    obtain ⟨t₂, n₂, hbuffered⟩ := comes_start x .buffered deadline now hvs
    obtain ⟨between, hreports, -, hmoments⟩ := x.signals_moments .streaming deadline now
    have hbetween : ∀ s ∈ between, s.isBetween = true :=
      fun s hs => isBetween_of_mem_reports (hreports.subset hs)
    have hsignals : x.signals .streaming deadline now =
        .opened :: between ++ (x.verdict? deadline).toList := by
      rw [Exchange.signals, hmoments]
      rfl
    have houtcome : muted (x.verdict? deadline).toList = (x.verdict? deadline).toList := by
      refine muted_eq_self fun s hs => ?_
      have hverdict := Exchange.outcome_of_verdict? (Option.mem_toList.mp hs)
      exact Signal.not_isBetween_of_isTerminal hverdict.1
    refine ⟨max t₁ t₂, max n₁ n₂, fun t n ht hn => ?_⟩
    rw [hstreamed t n (by omega) (by omega), hbuffered t n (by omega) (by omega)]
    refine ⟨x.signals_buffered deadline now, ?_, between, hsignals, hbetween⟩
    rw [Exchange.signals_buffered, hsignals, muted_append, houtcome, muted_cons,
      muted_eq_nil hbetween]
    rfl
  case follows =>
    intro us
    rw [hstart]
    exact after_audible _ us
  case covers => exact exists_audible_eq _
  case stages =>
    rw [Exchange.moments_buffered, List.map_map]
    rfl
  case reported =>
    intro us vs hus hvs htimes
    rw [hstart]
    exact reported_mute _ hus hvs htimes

end Handle

end PagePatch
