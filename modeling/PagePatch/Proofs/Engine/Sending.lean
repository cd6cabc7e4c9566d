import PagePatch.Proofs.Engine.Queueing
import PagePatch.Proofs.Patch.Tokens

namespace PagePatch

/-!
# The tokens that requests are sent with

A request that comes without a token is given the last one that was remembered before it is sent,
however long it was held or waited.

* `Queue.request_obey` — what a queue hands out or keeps was taken in;
* `Engine.recordedIn`, `viewState_run_eq` — the token of an engine is the last one that was
  remembered;
* `Engine.Brings`, `recorded?_eq_some_iff` — a token is remembered exactly if it is the last one in
  the body of a response whose changes are applied;
* `Engine.endedIn` — the requests that ended along a run, with the tokens of their responses;
* `viewState_sentIn` — when all tokens come from the responses to requests, each of them reaches the
  next request;
* `Sending`, `sending_run` — what the requests of a run are sent with.
-/

variable {σ : Type}

/-! ### Where requests come from -/

namespace Queue

variable {q : Queue} {c : QueueCommand} {x : Entry}

/-- What the queue `q` hands out or keeps after placing `e` is `e`, or was kept before. -/
theorem mem_place (hvalid : q.Valid) {e : Entry}
    (hx : x ∈ (q.place e).1.started.toList ++ (q.place e).2.kept) : x ∈ q.kept ∨ x = e := by
  rw [kept, ← List.append_assoc, place_delayed hvalid] at hx
  rcases List.mem_append.mp hx with hx | hx
  · -- what is handed out and what waits are what waited before, and then the new entry
    have hmem : x ∈ q.pending ++ [e] := by
      rw [← place_append hvalid, List.append_assoc]
      exact List.mem_append_right _ hx
    rcases List.mem_append.mp hmem with hmem | hmem
    · exact .inl (List.mem_append_left _ hmem)
    · exact .inr (List.mem_singleton.mp hmem)
  · exact .inl (List.mem_append_right _ hx)

/-- What a queue keeps under the bound `size` that an entry brings along was kept before. -/
theorem mem_override {size : Option Nat} (hx : x ∈ (q.override size).kept) : x ∈ q.kept := by
  rw [kept, override_delayed] at hx
  rw [kept, ← evictedBy_append q size, List.append_assoc]
  exact List.mem_append_right _ hx

/-- What a queue keeps after `e` is held apart is `e`, or was kept before. -/
theorem mem_defer {e : Entry} (delay : Nat) (hx : x ∈ (q.defer e delay).2.kept) :
    x ∈ q.kept ∨ x = e := by
  rcases List.mem_append.mp hx with hx | hx
  · exact .inl (List.mem_append_left _ hx)
  -- the row is one that stays, or that of the new entry
  · rw [defer, List.map_append] at hx
    rcases List.mem_append.mp hx with hx | hx
    · exact .inl (List.mem_append_right _ ((List.filter_sublist.map _).subset hx))
    · exact .inr (List.mem_singleton.mp hx)

/-- What a queue keeps under another bound `maxSize` was kept before. -/
theorem mem_resize {maxSize : Option Nat} (hx : x ∈ (q.resize maxSize).2.kept) : x ∈ q.kept := by
  rw [kept, resize, trim_delayed] at hx
  rcases List.mem_append.mp hx with hx | hx
  · refine List.mem_append_left _ ?_
    rw [← trim_append { q with maxSize }]
    exact List.mem_append_right _ hx
  · exact List.mem_append_right _ hx

/-- What a queue hands out or keeps after the command `c` was kept before, is placed by `c`, or is
    held from now on. -/
theorem mem_obey (hvalid : q.Valid)
    (hx : x ∈ (q.obey c).1.started.toList ++ (q.obey c).2.kept) :
    x ∈ q.kept ∨ (∃ p, q.placing c = some (p, x)) ∨ c = .enqueue x := by
  have hcourse := course_obey hvalid c
  generalize q.obey c = answered at hcourse hx
  obtain ⟨a, q'⟩ := answered
  cases hcourse with
  | @placed _ p e hplacing =>
    have hplaces := places_of_placing hvalid hplacing
    rcases mem_place (hplaces.valid hvalid) hx with hkept | rfl
    · rcases List.mem_append.mp hkept with hwaits | hheld
      · exact .inl (List.mem_append_left _ (hplaces.pending ▸ List.mem_append_right _ hwaits))
      · exact .inl (List.mem_append_right _ ((hplaces.held.map _).subset hheld))
    · exact .inr (.inl ⟨p, hplacing⟩)
  | @deferred e hdelayed delay =>
    rcases mem_defer delay ((List.mem_append.mp hx).resolve_left List.not_mem_nil) with hkept | rfl
    · exact .inl (mem_override hkept)
    · exact .inr (.inr rfl)
  | still hinert hanswer => rcases hanswer with rfl | rfl <;> exact .inl hx
  | completed hid =>
    -- the entry at the front of those that wait is handed out, the others go on waiting
    have hqueue : q.pending.head?.toList ++ q.pending.tail = q.pending := by
      cases q.pending <;> rfl
    rw [kept, ← List.append_assoc] at hx
    left
    rw [kept, ← hqueue]
    exact hx
  | cancelled => cases hx
  | resized maxSize =>
    exact .inl (mem_resize ((List.mem_append.mp hx).resolve_left List.not_mem_nil))

/-- What `deferral?` finds for a source is one of the rows of the table. -/
theorem mem_delayed_of_deferral? {source : String} {held : Deferral}
    (h : q.deferral? source = some held) : (source, held) ∈ q.delayed := by
  obtain ⟨before, after, hrows, -⟩ := List.lookup_eq_some_iff.mp h
  rw [hrows]
  exact List.mem_append_right _ List.mem_cons_self

/-- **Nothing from elsewhere.** What a queue hands out or keeps after the command `c` has the
    request of a new entry or of one that was kept before. Only the delay of an entry is ever
    changed, so the requests are looked at. -/
theorem request_obey (hvalid : q.Valid)
    (hx : x ∈ (q.obey c).1.started.toList ++ (q.obey c).2.kept) :
    (∃ new, c = .enqueue new ∧ x.request = new.request) ∨ ∃ y ∈ q.kept, x.request = y.request := by
  rcases mem_obey hvalid hx with hkept | ⟨p, hplacing⟩ | rfl
  · exact .inr ⟨x, hkept, rfl⟩
  · cases c with
    | enqueue new =>
      simp only [placing, Option.ite_none_left_eq_some, Option.some.injEq,
        Prod.mk.injEq] at hplacing
      obtain ⟨-, -, rfl⟩ := hplacing
      exact .inl ⟨new, rfl, rfl⟩
    | release source generation =>
      obtain ⟨held, hfound, hplaced⟩ := Option.map_eq_some_iff.mp hplacing
      obtain ⟨-, rfl⟩ := Prod.mk.inj hplaced
      have hrow := mem_delayed_of_deferral? (held_of_filter hfound).1
      exact .inr ⟨held.entry, List.mem_append_right _ (List.mem_map_of_mem hrow), rfl⟩
    | _ => cases hplacing
  · exact .inl ⟨x, rfl, rfl⟩

end Queue

/-! ### Along a run -/

namespace Engine

/-- The tokens that are remembered along the run on `is`, in order. -/
def recordedIn (e : Engine σ) (is : List EngineInput) (s : EngineState σ) : List String :=
  e.collect (fun i s => (e.recorded? i s).toList) is s

/-- The request that ends on the input `i`, and the token that its response brought, if it brought
    one. -/
def endedOn (e : Engine σ) (i : EngineInput) (s : EngineState σ) :
    List (RequestId × Option String) :=
  match s.queueCommand? i with
  | some (.complete id) => [(id, e.recorded? i s)]
  | _ => []

/-- The requests that end along the run on `is`, in order, each with the token that its response
    brought. -/
def endedIn (e : Engine σ) (is : List EngineInput) (s : EngineState σ) :
    List (RequestId × Option String) :=
  e.collect e.endedOn is s

/-- The requests that are sent along the run on `is`, in order, as the server gets them. -/
def sentIn (e : Engine σ) (is : List EngineInput) (s : EngineState σ) : List Request :=
  e.collect (fun i s => requestsOf (e.added i s)) is s

end Engine

variable {e : Engine σ} {s₀ s : EngineState σ} {is : List EngineInput} {i : EngineInput}

/-- What is sent on the input `i` has the token that is there after this input, unless it has one of
    its own. -/
theorem requests_added (e : Engine σ) (i : EngineInput) (s : EngineState σ) :
    requestsOf (e.added i s) = (s.startedBy (s.queueCommand? i)).toList.map fun entry =>
      entry.request.withViewState (e.step i s).viewState := by
  obtain ⟨outs, houts, hrequests⟩ := (acts_step e s i).sent
  rw [Engine.added_of_history houts, hrequests]

/-- The token of an engine is the last one in `recordedIn`, or the one that it began with. -/
theorem viewState_run_eq (e : Engine σ) (is : List EngineInput) (s₀ : EngineState σ) :
    (e.run is s₀).viewState = (e.recordedIn is s₀).getLast?.or s₀.viewState := by
  unfold Engine.recordedIn
  induction is using List.reverseRecOn with
  | nil => rfl
  | append_singleton is i ih =>
    have hrun : e.run (is ++ [i]) s₀ = e.step i (e.run is s₀) := e.run_append is [i] s₀
    rw [hrun, (acts_step e (e.run is s₀) i).viewState, ih, Engine.collect_snoc,
      List.getLast?_append, Option.or_assoc]
    cases e.recorded? i (e.run is s₀) <;> rfl

/-! ### From the body of a response to the token -/

/-- The response `r` brings `token` to a page: its body is read as changes that are applied, and
    `token` is the last one among their updates of the view state, up to the first redirect. -/
structure Engine.Brings (e : Engine σ) (page : σ) (r : Response) (token : String) : Prop where
  /-- The status code tells of success. -/
  succeeds : 200 ≤ r.status ∧ r.status ≤ 299
  /-- The changes do not end in a failure, after which the token would not be remembered. -/
  applied : ¬ e.BreaksOn page (some r)
  /-- They report no failure of the server, and this is the last token in them. -/
  body : ∃ parsed, e.parser.parse r.body = .ok parsed ∧
    (∀ name message, .error name message ∉ parsed.changes.operations) ∧
    (e.config.reserved.tokens parsed.changes.operations).getLast? = some token

/-- The token of a response is the one that it `Brings`: what the processing leaves in its summary
    is read off the body. -/
theorem tokenOf_eq_some_iff (e : Engine σ) (page : σ) (r : Response) (token : String) :
    e.tokenOf page r = some token ↔ e.Brings page r token := by
  obtain ⟨v, page', hv⟩ := e.processor.judges_total e.document r page
  have htoken : e.tokenOf page r = v.outcome.viewState := by
    rw [Engine.tokenOf, Processor.process_of_judges hv]
    rfl
  rw [htoken]
  -- of the five ways that a response can go only one has a token in its outcome
  cases hv with
  | refused hstatus => exact ⟨(by cases ·), fun h => absurd h.succeeds hstatus⟩
  | unreadable hstatus hparse =>
    refine ⟨(by cases ·), fun h => ?_⟩
    obtain ⟨parsed, hparsed, -⟩ := h.body
    cases hparse.symm.trans hparsed
  | reported hstatus hparse hops hbefore =>
    refine ⟨(by cases ·), fun h => ?_⟩
    obtain ⟨parsed, hparsed, hnone, -⟩ := h.body
    obtain rfl := Except.ok.inj (hparse.symm.trans hparsed)
    exact absurd (hops ▸ List.mem_append_right _ List.mem_cons_self) (hnone _ _)
  | broken hstatus hparse hops happly =>
    exact ⟨(by cases ·),
      fun h => absurd ⟨r, _, _, rfl, .broken hstatus hparse hops happly⟩ h.applied⟩
  | @applied parsed o page' hstatus hparse hops happly =>
    have hlast : o.viewState = (e.config.reserved.tokens parsed.changes.operations).getLast? :=
      viewState_apply e.document _ ((ChangeSet.error?_eq_none_iff _).mpr hops) happly
    show o.viewState = some token ↔ _
    constructor
    · intro h
      refine ⟨hstatus, ?_, parsed, hparse, hops, hlast ▸ h⟩
      rintro ⟨_, failure, page'', ⟨⟩, hbroken⟩
      cases (Processor.Judges.unique (.applied hstatus hparse hops happly) hbroken).1
    · intro h
      obtain ⟨other, hother, -, htokens⟩ := h.body
      obtain rfl := Except.ok.inj (hparse.symm.trans hother)
      exact hlast.trans htokens

/-- **From body to token.** What is remembered on the input `i` is what the response that is
    processed on it brings to the page. -/
theorem recorded?_eq_some_iff {token : String} :
    e.recorded? i s = some token ↔ ∃ r, s.processed? i = some r ∧ e.Brings s.page r token := by
  rw [Engine.recorded?, Option.bind_eq_some_iff]
  simp only [tokenOf_eq_some_iff]

/-! ### From the queue to what is sent -/

/-- The queue is told to take `entry` in only when the engine is. -/
theorem eq_of_queueCommand? {entry : Entry} (h : s.queueCommand? i = some (.enqueue entry)) :
    i = .command (.enqueue entry) := by
  unfold EngineState.queueCommand? at h
  cases hclosed : s.closed with
  | true => simp [hclosed] at h
  | false =>
    rw [hclosed, if_neg Bool.false_ne_true] at h
    cases i with
    | command c =>
      cases c with
      | enqueue new =>
        obtain ⟨⟩ := Option.some.inj h
        rfl
      | _ => cases h
    | signal => simp at h
    | _ => cases h

/-- What the queue of an engine hands out or keeps after the input `i` has the request of an entry
    that is taken in by `i`, or of one that was kept before. -/
theorem request_step (hvalid : s.queue.Valid) {x : Entry}
    (hx : x ∈ (s.startedBy (s.queueCommand? i)).toList ++ (e.step i s).queue.kept) :
    (∃ entry, i = .command (.enqueue entry) ∧ x.request = entry.request) ∨
      ∃ y ∈ s.queue.kept, x.request = y.request := by
  rw [(acts_step e s i).queue] at hx
  cases hcommand : s.queueCommand? i with
  | none =>
    rw [hcommand] at hx
    exact .inr ⟨x, hx, rfl⟩
  | some c =>
    rw [hcommand] at hx
    rcases Queue.request_obey hvalid hx with ⟨new, rfl, hnew⟩ | hkept
    · exact .inl ⟨new, eq_of_queueCommand? hcommand, hnew⟩
    · exact .inr hkept

/-- What the queue of an engine keeps after the run `is` has the request of an entry that was taken
    in along it. -/
theorem request_run (hvalid : s₀.queue.Valid) (hempty : s₀.queue.kept = []) {x : Entry}
    (hx : x ∈ (e.run is s₀).queue.kept) :
    ∃ entry, .command (.enqueue entry) ∈ is ∧ x.request = entry.request := by
  induction is using List.reverseRecOn generalizing x with
  | nil =>
    rw [show (e.run [] s₀).queue.kept = [] from hempty] at hx
    cases hx
  | append_singleton is i ih =>
    rw [Engine.run_append] at hx
    rcases request_step (valid_run hvalid is) (List.mem_append_right _ hx) with
      ⟨entry, rfl, hentry⟩ | ⟨y, hy, hrequest⟩
    · exact ⟨entry, by simp, hentry⟩
    · obtain ⟨entry, hentry, heq⟩ := ih hy
      exact ⟨entry, List.mem_append_left _ hentry, hrequest.trans heq⟩

/-- **What is sent.** A request `r` that is sent on the input `i` is that of an entry that was taken
    in, with the last token that was remembered, unless it has one of its own. -/
theorem sent_eq (hvalid : s₀.queue.Valid) (hempty : s₀.queue.kept = []) {r : Request}
    (hr : r ∈ requestsOf (e.added i (e.run is s₀))) :
    ∃ entry, .command (.enqueue entry) ∈ is ++ [i] ∧
      r = entry.request.withViewState
        ((e.recordedIn (is ++ [i]) s₀).getLast?.or s₀.viewState) := by
  rw [requests_added] at hr
  obtain ⟨x, hx, rfl⟩ := List.mem_map.mp hr
  have htoken := viewState_run_eq e (is ++ [i]) s₀
  rw [Engine.run_append] at htoken
  rw [← htoken]
  rcases request_step (e := e) (valid_run hvalid is) (List.mem_append_left _ hx) with
    ⟨entry, rfl, hentry⟩ | ⟨y, hy, hrequest⟩
  · exact ⟨entry, by simp, by rw [hentry]; rfl⟩
  · obtain ⟨entry, hentry, heq⟩ := request_run hvalid hempty hy
    exact ⟨entry, List.mem_append_left _ hentry, by rw [hrequest, heq]; rfl⟩

/-! ### From response to request -/

/-- A request ends only when it is the one in flight, so its `id` is not taken from elsewhere. -/
theorem current_of_complete (hs : Steady s) {id : RequestId}
    (h : s.queueCommand? i = some (.complete id)) : s.queue.current = some id := by
  unfold EngineState.queueCommand? at h
  rw [hs.running, if_neg Bool.false_ne_true] at h
  cases i with
  | command c => cases c <;> cases h
  | signal =>
    obtain ⟨entry, hentry, hid⟩ := Option.map_eq_some_iff.mp h
    obtain ⟨f, hf, hended⟩ := Option.bind_eq_some_iff.mp hentry
    obtain ⟨-, ⟨⟩⟩ := Option.ite_none_right_eq_some.mp hended
    rw [hs.current, EngineState.flight, hf]
    exact congrArg some (QueueCommand.complete.inj hid)
  | _ => cases h

/-- **One at a time.** What is in flight before the input `i` and what is sent on it, in this order,
    are what ends on it and what is in flight after it. -/
theorem current_step (hs : s.closed = false → Steady s) (hvalid : s.queue.Valid) (i : EngineInput) :
    s.queue.current.toList ++ (requestsOf (e.added i s)).map Request.id =
      (e.endedOn i s).map Prod.fst ++ (e.step i s).queue.current.toList := by
  rw [requests_added, (acts_step e s i).queue]
  cases hcommand : s.queueCommand? i with
  | none => simp [EngineState.startedBy, Engine.endedOn, hcommand]
  | some c =>
    have hopen : s.closed = false := by
      cases hclosed : s.closed with
      | false => rfl
      | true => simp [EngineState.queueCommand?, hclosed] at hcommand
    have hstep := Queue.turnover_obey hvalid c
    have hended : (e.endedOn i s).map Prod.fst =
        if c.ends s.queue then s.queue.current.toList else [] := by
      unfold Engine.endedOn
      rw [hcommand]
      cases c with
      | complete id =>
        have hid := current_of_complete (hs hopen) hcommand
        simp [QueueCommand.ends, hid]
      | _ => rfl
    -- without an entry to send the end alone decides; with one there was nothing in flight, or it
    -- has ended
    rw [hended, Option.elim_some, hstep.current]
    simp only [EngineState.startedBy, Option.bind_some]
    cases hstarted : (s.queue.obey c).1.started with
    | none => cases c.ends s.queue <;> simp
    | some x =>
      rcases hstep.alone (by rw [hstarted]; rfl) with hidle | hends
      · simp [hidle, Request.withViewState, Entry.id]
      · simp [hends, Request.withViewState, Entry.id]

/-- The request `r` that is sent on `i` is in flight after it, as the queue knows it. -/
theorem current_of_sent (hvalid : s.queue.Valid) {r : Request}
    (hr : r ∈ requestsOf (e.added i s)) : (e.step i s).queue.current = some r.id := by
  rw [requests_added] at hr
  obtain ⟨x, hx, rfl⟩ := List.mem_map.mp hr
  rw [(acts_step e s i).queue]
  cases hcommand : s.queueCommand? i with
  | none => simp [hcommand, EngineState.startedBy] at hx
  | some c =>
    simp only [hcommand, EngineState.startedBy, Option.bind_some, Option.mem_toList] at hx
    rw [Option.elim_some, (Queue.turnover_obey hvalid c).current, hx]
    rfl

/-- Unless a response is handed in by `i`, a token is remembered only when a request ends. -/
theorem recorded?_eq_none (hhands : i.handsIn = false)
    (h : ∀ id, s.queueCommand? i ≠ some (.complete id)) : e.recorded? i s = none := by
  unfold Engine.recorded? EngineState.processed?
  unfold EngineState.queueCommand? at h
  -- an engine that was shut down processes nothing
  cases hclosed : s.closed with
  | true => rfl
  | false =>
    simp only [hclosed, Bool.false_eq_true, if_false] at h ⊢
    cases i with
    | command c =>
      cases c with
      | respond r ctx => cases hhands
      | _ => rfl
    | signal =>
      cases hflight : s.inFlight with
      | none => rfl
      | some f =>
        simp only [EngineState.ending?, hflight, Option.bind_some] at h ⊢
        generalize (f.handle.elapse s.now).next.1 = heard at h ⊢
        -- only the last signal of an exchange brings a response
        cases heard with
        | signal signal =>
          cases signal with
          | stage event =>
            by_cases hdone : event.stage = .done
            · exact absurd (by simp [Heard.isLast, Signal.isTerminal, hdone]) (h f.entry.id)
            · simp [Heard.response?, Signal.response?, TransportEvent.response?, hdone]
          | _ => rfl
        | _ => rfl
    | _ => rfl

/-- The token that is remembered on `i` is that of the request that ends on it. -/
theorem tokens_endedOn (hhands : i.handsIn = false) :
    (e.endedOn i s).filterMap Prod.snd = (e.recorded? i s).toList := by
  unfold Engine.endedOn
  split
  · cases e.recorded? i s <;> rfl
  · next hother => rw [recorded?_eq_none hhands hother]; rfl

/-- Unless responses are handed in along `is`, all tokens come from the responses to requests, in
    the order in which these ended. -/
theorem recordedIn_eq (hquiet : ∀ i ∈ is, i.handsIn = false) (s : EngineState σ) :
    e.recordedIn is s = (e.endedIn is s).filterMap Prod.snd := by
  induction is generalizing s with
  | nil => rfl
  | cons i is ih =>
    have hrest := ih (fun j hj => hquiet j (List.mem_cons_of_mem _ hj)) (e.step i s)
    show (e.recorded? i s).toList ++ e.recordedIn is (e.step i s) =
      (e.endedOn i s ++ e.endedIn is (e.step i s)).filterMap Prod.snd
    rw [List.filterMap_append, tokens_endedOn (hquiet i List.mem_cons_self), hrest]

/-- **In order.** The requests of `sentIn` are those of `endedIn`, in the same order, and then the
    one in flight. -/
theorem ids_sentIn (e : Engine σ) (page : σ) (server : Server) (is : List EngineInput) :
    (e.sentIn is (e.initial page server)).map Request.id =
      (e.endedIn is (e.initial page server)).map Prod.fst ++
        (e.run is (e.initial page server)).queue.current.toList := by
  unfold Engine.sentIn Engine.endedIn
  induction is using List.reverseRecOn with
  | nil => rfl
  | append_singleton is i ih =>
    have hstep := current_step (e := e) (steady_run e is (steady_initial e page server))
      (valid_run (Queue.valid_new e.config.queueSize) is) i
    rw [Engine.collect_snoc, Engine.collect_snoc, List.map_append, List.map_append, ih,
      List.append_assoc, hstep, ← List.append_assoc, Engine.run_append]
    rfl

/-- The token that was remembered last, after the requests in `ended`; before any, the one of the
    settings. -/
def Engine.lastToken (e : Engine σ) (ended : List (RequestId × Option String)) : Option String :=
  (ended.filterMap Prod.snd).getLast?.or e.config.viewState

/-- **From response to request.** When no request has a token of its own and no response is handed
    in, the request number `n` is sent with the last token that the responses to those before it
    brought. -/
theorem viewState_sentIn (e : Engine σ) (page : σ) (server : Server) (is : List EngineInput)
    (hbare : ∀ entry, .command (.enqueue entry) ∈ is → entry.request.viewState = none)
    (hquiet : ∀ i ∈ is, i.handsIn = false) {n : Nat} {r : Request}
    (hr : (e.sentIn is (e.initial page server))[n]? = some r) :
    r.viewState = e.lastToken ((e.endedIn is (e.initial page server)).take n) := by
  -- by induction on the end of the run, where a request is sent at most
  induction is using List.reverseRecOn generalizing n r with
  | nil => cases hr
  | append_singleton is i ih =>
    have hvalid := Queue.valid_new e.config.queueSize
    have hids := congrArg List.length (ids_sentIn e page server is)
    have hids' := congrArg List.length (ids_sentIn e page server (is ++ [i]))
    have htoken := recordedIn_eq (e := e) hquiet (e.initial page server)
    have hended : e.endedIn (is ++ [i]) (e.initial page server) =
        e.endedIn is (e.initial page server) ++
          e.endedOn i (e.run is (e.initial page server)) := Engine.collect_snoc ..
    have hsent : e.sentIn (is ++ [i]) (e.initial page server) =
        e.sentIn is (e.initial page server) ++
          requestsOf (e.added i (e.run is (e.initial page server))) := Engine.collect_snoc ..
    rw [List.length_map, List.length_append, List.length_map] at hids hids'
    rw [hsent] at hr hids'
    by_cases hold : n < (e.sentIn is (e.initial page server)).length
    · -- at most one of the requests that were sent has not ended
      have hcurrent : (e.run is (e.initial page server)).queue.current.toList.length ≤ 1 :=
        Option.length_toList_le
      rw [List.getElem?_append_left hold] at hr
      rw [ih (fun entry hentry => hbare entry (List.mem_append_left _ hentry))
        (fun j hj => hquiet j (List.mem_append_left _ hj)) hr, hended,
        List.take_append_of_le_length (by omega)]
    · -- the others have ended when one is sent
      rw [List.getElem?_append_right (by omega)] at hr
      have hmem := List.mem_of_getElem? hr
      have hflight := current_of_sent (valid_run hvalid is) hmem
      have hfew : ((e.run is (e.initial page server)).startedBy
          ((e.run is (e.initial page server)).queueCommand? i)).toList.length ≤ 1 :=
        Option.length_toList_le
      rw [Engine.run_append] at hids'
      rw [List.length_append, requests_added, List.length_map,
        show (e.run [i] (e.run is (e.initial page server))).queue.current = some r.id from hflight,
        Option.toList_some, List.length_singleton] at hids'
      obtain ⟨entry, hentry, rfl⟩ := sent_eq hvalid rfl hmem
      rw [List.take_of_length_le (by omega), Engine.lastToken, ← htoken]
      simp only [Request.withViewState, hbare entry hentry, Option.none_or]
      rfl

/-- **The one before.** Before the request `r` is sent the one in front of it, `r₀`, has ended, and
    the token that its response brought, if it brought one, is the one that `r` has. -/
theorem exists_ended (e : Engine σ) (page : σ) (server : Server) (is : List EngineInput)
    (hbare : ∀ entry, .command (.enqueue entry) ∈ is → entry.request.viewState = none)
    (hquiet : ∀ i ∈ is, i.handsIn = false) {n : Nat} {r : Request}
    (hr : (e.sentIn is (e.initial page server))[n + 1]? = some r) :
    ∃ r₀ outcome, (e.sentIn is (e.initial page server))[n]? = some r₀ ∧
      (e.endedIn is (e.initial page server))[n]? = some (r₀.id, outcome) ∧
        ∀ token, outcome = some token → r.viewState = some token := by
  have hids := ids_sentIn e page server is
  have htoken := viewState_sentIn e page server is hbare hquiet hr
  generalize e.sentIn is (e.initial page server) = sent at hr hids ⊢
  generalize e.endedIn is (e.initial page server) = ended at htoken hids ⊢
  have hcount := congrArg List.length hids
  obtain ⟨hshort, -⟩ := List.getElem?_eq_some_iff.mp hr
  have hcurrent : (e.run is (e.initial page server)).queue.current.toList.length ≤ 1 :=
    Option.length_toList_le
  rw [List.length_map, List.length_append, List.length_map] at hcount
  have hn : n < ended.length := by omega
  obtain ⟨⟨id, outcome⟩, hended⟩ : ∃ x, ended[n]? = some x := ⟨_, List.getElem?_eq_getElem hn⟩
  obtain ⟨r₀, hr₀⟩ : ∃ r₀, sent[n]? = some r₀ := ⟨_, List.getElem?_eq_getElem (by omega)⟩
  have hid : some r₀.id = some id := by
    -- at the same place of both lists stands the same request, as `hids` compares them
    have hsame : (sent.map Request.id)[n]? = (ended.map Prod.fst ++ _)[n]? :=
      congrArg (·[n]?) hids
    rw [List.getElem?_append_left (by rwa [List.length_map]), List.getElem?_map,
      List.getElem?_map, hr₀, hended] at hsame
    exact hsame
  refine ⟨r₀, outcome, hr₀, ?_, ?_⟩
  · rw [hended, Option.some.inj hid]
  · rintro token rfl
    rw [htoken, Engine.lastToken, List.take_add_one, hended]
    simp

/-- An `entry` that is issued has the token among its own parameters, if there is one. -/
theorem viewState_of_issue {id : RequestId} {source : String} {event : Option String}
    {options : RequestOptions} {entry : Entry} (h : e.issue s id source event options = .ok entry) :
    entry.request.viewState = options.params.lookup viewStateField := by
  unfold Engine.issue at h
  split at h
  · cases h
  · split at h
    · cases h
    · obtain ⟨⟩ := h
      rfl

/-- What is promised of the requests that are sent along the run on `is` that began in `s₀`. -/
structure Sending (e : Engine σ) (s₀ : EngineState σ) (is : List EngineInput) : Prop where
  /-- What was made known tells of all of them, and of no other ones. -/
  all : requestsOf (e.run is s₀).history = e.sentIn is s₀
  /-- They are the requests that ended, in the same order, and the one in flight. -/
  ids : (e.sentIn is s₀).map Request.id =
    (e.endedIn is s₀).map Prod.fst ++ (e.run is s₀).queue.current.toList
  /-- Each is the request of an entry that was taken in, with the token that was remembered last up
      to then, unless it has one of its own. -/
  carries : ∀ before i rest, is = before ++ i :: rest →
    ∀ r ∈ requestsOf (e.added i (e.run before s₀)),
      ∃ entry, .command (.enqueue entry) ∈ before ++ [i] ∧
        r = entry.request.withViewState
          ((e.recordedIn (before ++ [i]) s₀).getLast?.or e.config.viewState)
  /-- A token is remembered on an input exactly if the body of the response that is processed on it
      brings this token to the page. -/
  recorded : ∀ before i rest, is = before ++ i :: rest → ∀ token,
    e.recorded? i (e.run before s₀) = some token ↔
      ∃ r, (e.run before s₀).processed? i = some r ∧ e.Brings (e.run before s₀).page r token
  /-- A token of its own is the value of the first parameter with the name of the field. -/
  own : ∀ (s : EngineState σ) id source event options entry,
    e.issue s id source event options = .ok entry →
      entry.request.viewState = options.params.lookup viewStateField
  /-- When no request has a token of its own and no response is handed in, each is sent with the
      last token that the responses to those before it brought. -/
  relays : (∀ entry, .command (.enqueue entry) ∈ is → entry.request.viewState = none) →
    (∀ i ∈ is, i.handsIn = false) → ∀ n r, (e.sentIn is s₀)[n]? = some r →
      r.viewState = e.lastToken ((e.endedIn is s₀).take n)
  /-- So the next request is sent with exactly the token of the response to the one before it, if
      that brought a token. -/
  next : (∀ entry, .command (.enqueue entry) ∈ is → entry.request.viewState = none) →
    (∀ i ∈ is, i.handsIn = false) → ∀ n r, (e.sentIn is s₀)[n + 1]? = some r →
      ∃ r₀ outcome, (e.sentIn is s₀)[n]? = some r₀ ∧
        (e.endedIn is s₀)[n]? = some (r₀.id, outcome) ∧
          ∀ token, outcome = some token → r.viewState = some token

/-- **The last token.** Whatever an engine is told and whatever comes of its exchanges along `is`: a
    request is sent with a token of its own, or else with the one that was remembered last before
    that. -/
theorem sending_run (e : Engine σ) (page : σ) (server : Server) (is : List EngineInput) :
    Sending e (e.initial page server) is := by
  refine {
    all := ?_
    ids := ids_sentIn e page server is
    carries := ?_
    recorded := fun before i rest _ token => recorded?_eq_some_iff
    own := fun s id source event options entry => viewState_of_issue
    relays := fun hbare hquiet n r => viewState_sentIn e page server is hbare hquiet
    next := fun hbare hquiet n r => exists_ended e page server is hbare hquiet }
  · rw [history_run, Engine.collect_hom e requestsOf rfl requestsOf_append]
    rfl
  · rintro before i rest - r hr
    exact sent_eq (Queue.valid_new e.config.queueSize) rfl hr

/-- The response to the first request brings a token, with which the waiting one is sent. -/
example :
    let r : Response := {
      status := 200
      body := "<partial-response><changes><update id=\"javax.faces.ViewState\">" ++
        "<![CDATA[t1]]></update></changes></partial-response>" }
    let s₀ := (Recorder.engine {}).initial {} { otherwise := { ending := .respond r } }
    let is := [.command (.enqueue (Recorder.entry ⟨1⟩ "a")),
      .command (.enqueue (Recorder.entry ⟨2⟩ "b")), .signal, .signal]
    ((Recorder.engine {}).sentIn is s₀).map Request.viewState = [none, some "t1"] := by
  decide +kernel

end PagePatch
