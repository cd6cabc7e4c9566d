import Mathlib.Data.List.TakeWhile
import PagePatch.Transport.Handle

namespace PagePatch

/-!
# The course of an exchange

The signals of an exchange are stages, and then one outcome if it ever ends. An exchange that was
not given up never signals that it was.

* `Course` — signals in such an order;
* `Exchange.course_moments` — what is heard of an exchange is such a course;
* `Handle.Listens` — a handle with the rest of a course, which time (`Handle.Listens.elapse`) and
  asking for the next signal (`Handle.Listens.next`) leave it with.
-/

/-- Signals that are stages, followed by one outcome at most. What a handle has `outstanding` is
    such a list. -/
inductive Course : List Signal → Prop
  /-- Nothing is heard any more. -/
  | silent : Course []
  /-- The outcome is heard, and nothing after it. -/
  | outcome {s : Signal} (hlast : s.isTerminal = true) (hkept : s ≠ .aborted) : Course [s]
  /-- A stage before the last one is heard. -/
  | stage {s : Signal} {rest : List Signal} (hgoes : s.isTerminal = false) (hrest : Course rest) :
      Course (s :: rest)

/-- The `stages` in front of a course make a course. -/
theorem Course.append {stages rest : List Signal} (hstages : ∀ s ∈ stages, s.isTerminal = false)
    (hrest : Course rest) : Course (stages ++ rest) := by
  induction stages with
  | nil => exact hrest
  | cons s stages ih =>
    rw [List.forall_mem_cons] at hstages
    exact .stage hstages.1 (ih hstages.2)

/-- What is heard before something else, `s`, is no outcome. -/
theorem Course.goes {s : Signal} {rest : List Signal} (h : Course (s :: rest))
    (hrest : rest ≠ []) : s.isTerminal = false := by
  cases h with
  | outcome => exact absurd rfl hrest
  | stage hgoes => exact hgoes

/-- What is left of a course behind some of its `stages` is a course. -/
theorem Course.of_append {stages rest : List Signal} (h : Course (stages ++ rest))
    (hstages : ∀ s ∈ stages, s.isTerminal = false) : Course rest := by
  induction stages with
  | nil => exact h
  | cons s stages ih =>
    rw [List.forall_mem_cons] at hstages
    rw [List.cons_append] at h
    generalize htail : stages ++ rest = tail at h ih
    cases h with
    | outcome hlast => cases hlast.symm.trans hstages.1
    | stage _ hrest => exact ih hrest hstages.2

/-- Nothing is heard behind an outcome `s`. -/
theorem Course.eq_nil_of_outcome {s : Signal} {rest : List Signal} (h : Course (s :: rest))
    (hlast : s.isTerminal = true) : rest = [] := by
  cases h with
  | outcome => rfl
  | stage hgoes => cases hlast.symm.trans hgoes

/-- The last stage, `done`, brings the response along. -/
theorem TransportEvent.response?_of_done {event : TransportEvent} (h : event.stage = .done) :
    ∃ r, event.response? = some r :=
  ⟨_, if_pos h⟩

/-! ### Exchanges -/

/-- What is heard of the report of a stage `e` before the last one is no outcome, if anything is
    heard of it. -/
theorem Reporter.report_signals (r : Reporter) {e : TransportEvent} (he : e.stage ≠ .done) :
    ∀ s ∈ (r.report e).2, s.isTerminal = false := by
  intro s hs
  unfold report at hs
  split at hs
  · cases hs
  · rw [List.mem_singleton] at hs
    subst hs
    exact beq_false_of_ne he

/-- What is heard of the `steps` of an exchange is no outcome. -/
theorem Exchange.stepMoments_signals (steps : List ExchangeStep) (r : Reporter) (now : Nat) :
    ∀ m ∈ (stepMoments r now steps).1, ∀ s ∈ m.signals, s.isTerminal = false := by
  induction steps generalizing r now with
  | nil => nofun
  | cons step rest ih =>
    refine List.forall_mem_cons.mpr ⟨?_, ih _ _⟩
    cases step with
    | headers status =>
      -- a status code that comes in too late is dropped
      show ∀ s ∈ (r.headersReceived status).2, _
      simp only [Reporter.headersReceived]
      split
      · nofun
      · exact Reporter.report_signals _ nofun
    | loading progress =>
      show ∀ s ∈ (r.loading progress).2, _
      simp only [Reporter.loading]
      split
      · nofun
      · exact Reporter.report_signals _ nofun
    | pause ms => nofun

/-- The signal of the ending `x` is an outcome, if there is one: an exchange that hangs has none. -/
theorem ExchangeEnding.course_signal? (x : ExchangeEnding) : Course x.signal?.toList := by
  cases x with
  | hang => exact .silent
  | respond r => exact .outcome rfl nofun
  | fail e => exact .outcome rfl nofun
  | panic => exact .outcome rfl nofun

/-- An exchange comes to its own end, if it has one, or to its `deadline`, behind which nothing is
    heard. -/
theorem Exchange.moments_eq (x : Exchange) (kind : TransportKind) (deadline start : Nat) :
    x.moments kind deadline start = (x.course kind start).1 ++ (x.course kind start).2.toList ∨
      x.moments kind deadline start =
        (x.course kind start).1.filter (·.time ≤ start + deadline) ++
          [{ time := start + deadline, signals := [.timeout deadline] }] := by
  by_cases h : (deadline = 0 || (x.course kind start).2.any (·.time ≤ start + deadline)) = true
  · exact .inl (if_pos h)
  · exact .inr (if_neg h)

/-- What is heard of an exchange is a course, of whatever `kind` it is. -/
theorem Exchange.course_moments (x : Exchange) (kind : TransportKind) (deadline start : Nat) :
    Course ((x.moments kind deadline start).flatMap Moment.signals) := by
  have hsteps := stepMoments_signals x.steps { kind } start
  rcases x.moments_eq kind deadline start with hmoments | hmoments
  -- it comes to its own end, or hangs
  · rw [hmoments, List.flatMap_append]
    refine Course.append ?_ ?_
    · intro s hs
      obtain ⟨m, hm, hs⟩ := List.mem_flatMap.mp hs
      exact hsteps m hm s hs
    · have hending := x.ending.course_signal?
      unfold course
      cases hx : x.ending.signal? with
      | none => exact .silent
      | some s =>
        rw [hx] at hending
        exact hending
  -- the deadline cuts it off; the stages before that are heard
  · rw [hmoments, List.flatMap_append]
    refine Course.append ?_ (.outcome rfl nofun)
    intro s hs
    obtain ⟨m, hm, hs⟩ := List.mem_flatMap.mp hs
    exact hsteps m (List.mem_filter.mp hm).1 s hs

/-! ### Handles -/

namespace Handle

/-- The signals that the handle `h` has not given out: those that are there, and those that are to
    come. -/
def outstanding (h : Handle) : List Signal :=
  h.queued ++ h.upcoming.flatMap Moment.signals

/-- The handle `h` waits for the rest of a course. -/
structure Listens (h : Handle) : Prop where
  /-- It was not given up, and the outcome was not given out. -/
  phase : h.phase = .listening
  /-- What it has to give out is the rest of a course. -/
  course : Course h.outstanding

/-- A new handle has the whole course of its exchange `x` before it. -/
theorem listens_start (x : Exchange) (kind : TransportKind) (deadline now : Nat) :
    (start x kind deadline now).Listens where
  phase := rfl
  course := .stage rfl (x.course_moments kind deadline now)

/-- Time adds nothing to what the handle `h` has to give out and takes nothing away. -/
theorem outstanding_elapse (h : Handle) (now : Nat) :
    (h.elapse now).outstanding = h.outstanding := by
  unfold outstanding elapse
  rw [List.append_assoc, ← List.flatMap_append, List.takeWhile_append_dropWhile]

/-- A signal `s` that is there is given out, and the handle is finished if that was an outcome. -/
theorem next_of_queued {h : Handle} {s : Signal} {rest : List Signal}
    (hphase : h.phase = .listening) (hqueued : h.queued = s :: rest) :
    h.next = (.signal s, { h with
      queued := rest, phase := if s.isTerminal then .finished else .listening }) := by
  simp only [next, hphase, hqueued]

/-- When everything that is still to come is due by `now`, all of it is there. -/
theorem elapse_of_due {h : Handle} {now : Nat} (hdue : ∀ m ∈ h.upcoming, m.time ≤ now) :
    (h.elapse now).queued = h.outstanding ∧ (h.elapse now).upcoming = [] := by
  have hpast : ∀ m ∈ h.upcoming, decide (m.time ≤ now) = true :=
    fun m hm => decide_eq_true (hdue m hm)
  constructor
  · show h.queued ++ (h.upcoming.takeWhile _).flatMap _ = _
    rw [List.takeWhile_eq_self_iff.mpr hpast]
    rfl
  · exact List.dropWhile_eq_nil_iff.mpr hpast

/-- A handle that listens goes on listening while time passes up to `now`. -/
theorem Listens.elapse {h : Handle} (hl : h.Listens) (now : Nat) : (h.elapse now).Listens where
  phase := hl.phase
  course := by
    rw [outstanding_elapse]
    exact hl.course

/-- What asking `h` for the next signal comes to while it listens: a stage, an outcome, or nothing
    yet. -/
inductive Next (h : Handle) : Prop
  /-- There is no signal yet. -/
  | pending (hnext : h.next = (.pending, h))
  /-- A stage before the last one; the handle goes on listening. -/
  | stage {s : Signal} {h' : Handle} (hnext : h.next = (.signal s, h'))
      (hgoes : s.isTerminal = false) (hlistens : h'.Listens)
  /-- The outcome, which is not that the exchange was given up. -/
  | outcome {s : Signal} {h' : Handle} (hnext : h.next = (.signal s, h'))
      (hlast : s.isTerminal = true) (hkept : s ≠ .aborted)

/-- What a handle that listens gives out: nothing yet, a stage, or an outcome, by the cases of
    `Next`. -/
theorem Listens.next {h : Handle} (hl : h.Listens) : h.Next := by
  obtain ⟨phase, queued, upcoming, reported⟩ := h
  obtain ⟨rfl, hcourse⟩ := hl
  -- whether there is a signal shows in what is queued, of which sort it is shows in the course
  cases queued with
  | nil => exact .pending rfl
  | cons s rest =>
    generalize hrest : rest ++ upcoming.flatMap Moment.signals = signals
    have hcourse : Course (s :: signals) := hrest ▸ hcourse
    cases hcourse with
    | outcome hlast hkept => exact .outcome rfl hlast hkept
    | stage hgoes hlater =>
      subst hrest
      exact .stage rfl hgoes ⟨by simp [hgoes], hlater⟩

/-- A handle that listens does not say `ended`, that it has come to its end. -/
theorem Listens.next_ne_ended {h : Handle} (hl : h.Listens) (h' : Handle) :
    h.next ≠ (.ended, h') := by
  intro hended
  cases hl.next with
  | pending hpending => cases hended.symm.trans hpending
  | stage hstage => cases hended.symm.trans hstage
  | outcome houtcome => cases hended.symm.trans houtcome

/-- A handle that listens does not give out `aborted`, that its exchange was given up. -/
theorem Listens.next_ne_aborted {h : Handle} (hl : h.Listens) (h' : Handle) :
    h.next ≠ (.signal .aborted, h') := by
  intro haborted
  cases hl.next with
  | pending hpending => cases haborted.symm.trans hpending
  | stage hstage hgoes =>
    cases haborted.symm.trans hstage
    cases hgoes
  | outcome houtcome _ hkept =>
    cases haborted.symm.trans houtcome
    exact hkept rfl

end Handle

end PagePatch
