import Mathlib.Data.List.Induction
import PagePatch.Proofs.Engine.Flight

namespace PagePatch

/-!
# What the listeners are told of a run

The requests that the queue sends are told of one after the other: the begin of a request comes
after the end of the one before it. A response that is handed in stands apart.

* `Engine.collect` — what is collected along a run, such as what was made known
  (`Engine.added`), taken in (`issuedAt`) or dropped (`droppedAt`);
* `Narration` — the requests that began and ended, and the one that only began;
* `Narrates` — a narration of a run, kept up by every turn (`Narrates.turn`);
* `recounted_run` — every run has a narration, in which every request occurs once.
-/

variable {σ : Type}

/-! ### Collecting along a run -/

namespace Engine

/-- What `f` collects along a run: at every input, from the state that it finds. -/
def collect {α : Type} (e : Engine σ) (f : EngineInput → EngineState σ → List α) :
    List EngineInput → EngineState σ → List α
  | [], _ => []
  | i :: is, s => f i s ++ collect e f is (e.step i s)

/-- What one more input `i` adds to what is collected: what `f` finds at the end of the run so
    far. -/
theorem collect_snoc {α : Type} (e : Engine σ) (f : EngineInput → EngineState σ → List α)
    (is : List EngineInput) (i : EngineInput) (s : EngineState σ) :
    e.collect f (is ++ [i]) s = e.collect f is s ++ f i (e.run is s) := by
  induction is generalizing s with
  | nil => exact List.append_nil _
  | cons j is ih =>
    show f j s ++ e.collect f (is ++ [i]) (e.step j s) = _
    rw [ih, ← List.append_assoc]
    rfl

/-- What is collected along the run `is` is collected at one of its inputs, `i`, from the state that
    the inputs `before` it lead to. -/
theorem mem_collect {α : Type} {e : Engine σ} {f : EngineInput → EngineState σ → List α}
    {is : List EngineInput} {s : EngineState σ} {x : α} :
    x ∈ e.collect f is s ↔
      ∃ before i rest, is = before ++ i :: rest ∧ x ∈ f i (e.run before s) := by
  induction is generalizing s with
  | nil => simp [collect]
  | cons i is ih =>
    rw [collect, List.mem_append, ih]
    constructor
    · rintro (hx | ⟨before, j, rest, rfl, hx⟩)
      · exact ⟨[], i, is, rfl, hx⟩
      · exact ⟨i :: before, j, rest, rfl, hx⟩
    · rintro ⟨before, j, rest, hsplit, hx⟩
      cases before with
      | nil =>
        obtain ⟨rfl, rfl⟩ := List.cons.inj hsplit
        exact .inl hx
      | cons k before =>
        obtain ⟨rfl, rfl⟩ := List.cons.inj hsplit
        exact .inr ⟨before, j, rest, rfl, hx⟩

/-- What the step on `i` adds to what was made known. -/
def added (e : Engine σ) (i : EngineInput) (s : EngineState σ) : List Output :=
  (e.step i s).history.drop s.history.length

/-- What the step on `i` makes known of the requests that the queue sends: all but what comes of a
    response that is handed in. -/
def ofQueue (e : Engine σ) (i : EngineInput) (s : EngineState σ) : List Output :=
  if i.handsIn then [] else e.added i s

/-- What a step adds, when the history after it is known to be longer by `outs`. -/
theorem added_of_history {e : Engine σ} {i : EngineInput} {s : EngineState σ} {outs : List Output}
    (h : (e.step i s).history = s.history ++ outs) : e.added i s = outs := by
  rw [added, h, List.drop_left]

end Engine

/-- The requests that a step takes in on `i`; an engine that was shut down takes in none. -/
def issuedAt (i : EngineInput) (s : EngineState σ) : List RequestId :=
  if s.closed then [] else i.taken

/-- The outcome of an exchange that is heard on `i`, if one is: the list has one element or none. -/
def heardAt (i : EngineInput) (s : EngineState σ) : List (Hearing σ) :=
  (s.heard? i).toList

/-- The entries that leave the queue on `i` without being sent, so nothing will be told of them. -/
def droppedAt (i : EngineInput) (s : EngineState σ) : List Entry :=
  if s.closed then [] else i.dropped s.queue

/-! ### Narrations -/

/-- What is told of the requests that the queue sends: `blocks` that are over, and one that is open
    at most, the `last`. -/
structure Narration where
  /-- The requests that have ended, in the order in which they were sent. -/
  blocks : List Block := []
  /-- The request that has begun and has not ended: of its block only the first notice was told. -/
  last : Option Entry := none

namespace Narration

/-- The notices of the narration `n`, one request after the other. -/
def notices (n : Narration) : List Notice :=
  n.blocks.flatMap Block.notices ++ n.last.toList.map Entry.beginning

/-- The entries of the narration `n`, in the order in which they were sent. -/
def entries (n : Narration) : List Entry :=
  n.blocks.map Block.entry ++ n.last.toList

/-- One turn further: the open request ends in the block `ended`, and `started` begins. -/
def turn (n : Narration) (ended : Option Block) (started : Option Entry) : Narration where
  blocks := n.blocks ++ ended.toList
  last := started.or (if ended.isSome then none else n.last)

variable {n : Narration} {ended : Option Block} {started : Option Entry}

/-- A turn adds the closing of the block `ended` and the begin of `started`, in this order and
    behind all that was told. -/
theorem notices_turn (howner : ∀ b, ended = some b → n.last = some b.entry)
    (halone : started.isSome → (if ended.isSome then none else n.last) = none) :
    (n.turn ended started).notices = n.notices ++
      (ended.toList.flatMap Block.closing ++ started.toList.map Entry.beginning) := by
  cases ended with
  | none =>
    cases started with
    | none => simp [turn, notices]
    | some x => simp [turn, notices, show n.last = none from halone rfl]
  | some b => cases started <;> simp [turn, notices, Block.notices, howner b rfl]

/-- A turn adds the entry that was `started`; the one that ended was there before. -/
theorem entries_turn (howner : ∀ b, ended = some b → n.last = some b.entry)
    (halone : started.isSome → (if ended.isSome then none else n.last) = none) :
    (n.turn ended started).entries = n.entries ++ started.toList := by
  cases ended with
  | none =>
    cases started with
    | none => simp [turn, entries]
    | some x => simp [turn, entries, show n.last = none from halone rfl]
  | some b => cases started <;> simp [turn, entries, howner b rfl]

end Narration

/-- The narration `n` tells of a run on the inputs `is` that began in `s₀`. -/
structure Narrates (e : Engine σ) (s₀ : EngineState σ) (is : List EngineInput) (n : Narration) :
    Prop where
  /-- It is what the listeners were told of the requests that the queue sent, neither more nor
      less. -/
  notices : noticesOf (e.collect e.ofQueue is s₀) = n.notices
  /-- It has them in the order in which their exchanges started. -/
  requests : requestsOf (e.collect e.ofQueue is s₀) = n.entries.map Entry.request
  /-- Its blocks are those that the outcomes of the exchanges close, one for each and in their
      order: a response ends its request with the verdict on it, a deadline or a failure without
      one. -/
  ends : List.Forall₂ e.Closes (e.collect heardAt is s₀) n.blocks
  /-- Only the request in flight has begun and not ended, until the engine is shut down. -/
  last : (e.run is s₀).closed = false → n.last = (e.run is s₀).flight
  /-- Every request that was taken in is in it, is kept in the queue or was dropped. -/
  conserved : (e.collect issuedAt is s₀).Perm (idsOf n.entries ++
    idsOf (e.run is s₀).queue.kept ++ idsOf (e.collect droppedAt is s₀))

variable {e : Engine σ} {s₀ : EngineState σ} {is : List EngineInput} {n : Narration}

/-- One input `i` more, on which the engine ends and sends what the narration goes on with. All four
    kinds of steps below (`Narrates.turn`, `aside`, `shutdown`, `closed`) are instances. -/
theorem Narrates.snoc (h : Narrates e s₀ is n) {i : EngineInput} {ended : Option Block}
    {started : Option Entry} (howner : ∀ b, ended = some b → n.last = some b.entry)
    (halone : started.isSome → (if ended.isSome then none else n.last) = none)
    (hnotices : noticesOf (e.ofQueue i (e.run is s₀)) =
      ended.toList.flatMap Block.closing ++ started.toList.map Entry.beginning)
    (hrequests : requestsOf (e.ofQueue i (e.run is s₀)) = started.toList.map Entry.request)
    (hends : List.Forall₂ e.Closes (heardAt i (e.run is s₀)) ended.toList)
    (hlast : (e.step i (e.run is s₀)).closed = false →
      (n.turn ended started).last = (e.step i (e.run is s₀)).flight)
    (hconserved : (issuedAt i (e.run is s₀) ++ idsOf (e.run is s₀).queue.kept).Perm
      (idsOf started.toList ++ idsOf (e.step i (e.run is s₀)).queue.kept ++
        idsOf (droppedAt i (e.run is s₀)))) :
    Narrates e s₀ (is ++ [i]) (n.turn ended started) := by
  have hrun : e.run (is ++ [i]) s₀ = e.step i (e.run is s₀) := e.run_append is [i] s₀
  refine {
    notices := ?_
    requests := ?_
    ends := ?_
    last := hrun ▸ hlast
    conserved := ?_ }
  · rw [Engine.collect_snoc, noticesOf_append, h.notices, hnotices,
      Narration.notices_turn howner halone]
  · rw [Engine.collect_snoc, requestsOf_append, h.requests, hrequests,
      Narration.entries_turn howner halone, List.map_append]
  -- for one input there is one outcome and one block, or neither
  · rw [Engine.collect_snoc]
    exact List.rel_append h.ends hends
  -- the ids of the run so far and of the last input are added up one by one
  · have hcount := List.perm_iff_count.mp h.conserved
    have hcount' := List.perm_iff_count.mp hconserved
    rw [List.perm_iff_count]
    intro id
    have hid := hcount id
    have hid' := hcount' id
    rw [hrun, Engine.collect_snoc, Engine.collect_snoc, Narration.entries_turn howner halone]
    simp only [List.count_append, idsOf_append] at hid hid' ⊢
    omega

/-- One input `i` more, on which nothing ends and nothing is sent. -/
theorem Narrates.still (h : Narrates e s₀ is n) {i : EngineInput}
    (hsilent : e.ofQueue i (e.run is s₀) = []) (hdeaf : (e.run is s₀).heard? i = none)
    (hlast : (e.step i (e.run is s₀)).closed = false →
      n.last = (e.step i (e.run is s₀)).flight)
    (hconserved : (issuedAt i (e.run is s₀) ++ idsOf (e.run is s₀).queue.kept).Perm
      (idsOf (e.step i (e.run is s₀)).queue.kept ++ idsOf (droppedAt i (e.run is s₀)))) :
    Narrates e s₀ (is ++ [i]) (n.turn none none) := by
  refine h.snoc (fun b hb => absurd hb.symm (Option.some_ne_none b))
    (fun hsome => absurd hsome Bool.false_ne_true) ?_ ?_ ?_ hlast hconserved
  · rw [hsilent]
    rfl
  · rw [hsilent]
    rfl
  · rw [heardAt, hdeaf]
    exact .nil

/-- **A turn goes on with the narration**, with the block `ended` that it ends and the entry
    `started` that it sends. -/
theorem Narrates.turn (h : Narrates e s₀ is n) {i : EngineInput} {ended : Option Block}
    {started : Option Entry} (hs : Steady (e.run is s₀)) (hhands : i.handsIn = false)
    (hends : List.Forall₂ e.Closes (heardAt i (e.run is s₀)) ended.toList)
    (hturn : Turn (e.run is s₀) i ended started (e.step i (e.run is s₀))) :
    Narrates e s₀ (is ++ [i]) (n.turn ended started) := by
  have hlast := h.last hs.running
  obtain ⟨outs, houts, hnotices, hrequests⟩ := hturn.history
  have hofQueue : e.ofQueue i (e.run is s₀) = outs := by
    rw [Engine.ofQueue, hhands]
    exact Engine.added_of_history houts
  refine h.snoc (fun b hb => hlast.trans (hturn.owner b hb)) ?_ ?_ ?_ hends ?_ ?_
  · rw [hlast]
    exact hturn.alone
  · rw [hofQueue, hnotices]
  · rw [hofQueue, hrequests]
  · intro _
    -- the open request is the one in flight, before and after
    rw [hturn.flight, ← hlast]
    rfl
  · simp only [issuedAt, droppedAt, hs.running, Bool.false_eq_true, if_false]
    exact hturn.conserved

/-- A response `r` that is handed in is not told of in the narration. -/
theorem Narrates.aside (h : Narrates e s₀ is n) (hs : Steady (e.run is s₀)) (r : Response)
    (ctx : ResponseContext) :
    Narrates e s₀ (is ++ [.command (.respond r ctx)]) (n.turn none none) := by
  have haside := aside_of_respond e hs.running r ctx
  refine h.still rfl ((e.run is s₀).heard?_of_ne nofun) (fun _ => ?_) ?_
  · rw [h.last hs.running, EngineState.flight, EngineState.flight, haside.inFlight]
  · simp only [issuedAt, droppedAt, hs.running, haside.queue, Bool.false_eq_true, if_false]
    simp [EngineInput.taken, EngineInput.dropped]

/-- At the `shutdown` nothing is told, and what the queue keeps is dropped. -/
theorem Narrates.shutdown (h : Narrates e s₀ is n) (hs : Steady (e.run is s₀)) :
    Narrates e s₀ (is ++ [.command .shutdown]) (n.turn none none) := by
  have hclosed := closed_shutdown e hs
  refine h.still ?_ ((e.run is s₀).heard?_of_ne nofun) (fun hopen => ?_) ?_
  · rw [Engine.ofQueue, if_neg (by simp [EngineInput.handsIn])]
    apply Engine.added_of_history
    simp [Engine.step, hs.running, Engine.obey]
  · exact absurd (hopen.symm.trans hclosed) Bool.false_ne_true
  · simp [issuedAt, droppedAt, hs.running, Engine.step, Engine.obey, Queue.cancelAll, Queue.kept,
      EngineInput.taken, EngineInput.dropped]

/-- After the shutdown nothing happens on an input `i` that a narration would tell of. -/
theorem Narrates.closed (h : Narrates e s₀ is n) (hclosed : (e.run is s₀).closed = true)
    (i : EngineInput) : Narrates e s₀ (is ++ [i]) (n.turn none none) := by
  obtain ⟨hstays, hqueue, hhistory⟩ := step_of_closed e hclosed i
  refine h.still ?_ (if_pos hclosed) (fun hopen => ?_) ?_
  · have hadded : e.added i (e.run is s₀) = [] :=
      Engine.added_of_history (hhistory.trans (List.append_nil _).symm)
    rw [Engine.ofQueue, hadded, ite_self]
  · exact absurd (hopen.symm.trans hstays) Bool.false_ne_true
  · simp [issuedAt, droppedAt, hclosed, hqueue]

/-- **Every run is narrated** by some `n`, whatever the inputs are and however the exchanges go. -/
theorem narrates_run (e : Engine σ) (page : σ) (server : Server) (is : List EngineInput) :
    ∃ n, Narrates e (e.initial page server) is n := by
  -- the narration goes on at its end, so the last input is the one that is split off
  induction is using List.reverseRecOn with
  | nil => exact ⟨{}, rfl, rfl, .nil, fun _ => rfl, .refl _⟩
  | append_singleton is i ih =>
    obtain ⟨n, hn⟩ := ih
    cases hclosed : (e.run is (e.initial page server)).closed with
    | true => exact ⟨_, hn.closed hclosed i⟩
    | false =>
      have hs := steady_run e is (steady_initial e page server) hclosed
      by_cases hstop : i = .command .shutdown
      · subst hstop
        exact ⟨_, hn.shutdown hs⟩
      · cases hhands : i.handsIn with
        | true =>
          obtain ⟨r, ctx, rfl⟩ := EngineInput.eq_respond_of_handsIn hhands
          exact ⟨_, hn.aside hs r ctx⟩
        | false =>
          obtain ⟨_, _, hends, hturn⟩ := turn_of_step e hs hhands hstop
          exact ⟨_, hn.turn hs hhands hends hturn⟩

/-! ### What that says -/

/-- Every notice of the block `b` is about the request of this block. -/
theorem Block.request_of_mem {b : Block} {notice : Notice} (h : notice ∈ b.notices) :
    notice.request = b.entry.id := by
  obtain ⟨entry, ending⟩ := b
  rcases List.mem_cons.mp h with rfl | h
  · rfl
  · cases ending with
    | answered r v =>
      rcases List.mem_cons.mp h with rfl | h
      · rfl
      · rw [List.mem_singleton.mp h]
        exact (v.notice_concludes entry.context r).1
    | lost description =>
      rw [List.mem_singleton.mp h]
      rfl

/-- Every notice of the narration `n` is about one of the requests that it tells of. -/
theorem Narration.request_mem {n : Narration} {notice : Notice} (h : notice ∈ n.notices) :
    notice.request ∈ idsOf n.entries := by
  rw [entries, idsOf_append, List.mem_append]
  rcases List.mem_append.mp h with h | h
  · obtain ⟨b, hb, hnotice⟩ := List.mem_flatMap.mp h
    rw [Block.request_of_mem hnotice]
    exact .inl (List.mem_map_of_mem (List.mem_map_of_mem hb))
  · obtain ⟨entry, hentry, rfl⟩ := List.mem_map.mp h
    exact .inr (List.mem_map_of_mem hentry)

/-- What the request of `entry` in flight is told of: its begin and the response, and whether that
    succeeded or how it failed; or its begin and that no response will come. -/
inductive Told (entry : Entry) : List Notice → Prop
  /-- A response came: its arrival is told first, and then that it succeeded or how it failed. -/
  | answered {complete : LifecycleEvent} {notice : Notice} (kind : Option ErrorKind)
      (hcomplete : complete.status = .complete) (hnotice : notice.Concludes kind) :
      Told entry [entry.beginning, .event complete, notice]
  /-- The deadline passed, or the exchange failed: one error is told instead. -/
  | lost {failure : ErrorEvent} (hkind : failure.kind = .httpError) :
      Told entry [entry.beginning, .error failure]

/-- Every block is told in one of the two ways of `Told`. -/
theorem Block.told (b : Block) : Told b.entry b.notices := by
  obtain ⟨entry, ending⟩ := b
  cases ending with
  | answered r v => exact .answered _ rfl (v.notice_concludes entry.context r).2
  | lost description => exact .lost rfl

/-- What was made known only grows: a step adds `e.added i s` to the history and takes nothing
    away. -/
theorem history_step (e : Engine σ) {s : EngineState σ} (hs : s.closed = false → Steady s)
    (i : EngineInput) : (e.step i s).history = s.history ++ e.added i s := by
  -- what a step adds is cut off by its length, so it is enough that nothing before it changes
  have hgrows : ∃ outs, (e.step i s).history = s.history ++ outs := by
    cases hclosed : s.closed with
    | true => exact ⟨[], (step_of_closed e hclosed i).2.2.trans (List.append_nil _).symm⟩
    | false =>
      by_cases hstop : i = .command .shutdown
      · subst hstop
        exact ⟨[], by simp [Engine.step, hclosed, Engine.obey]⟩
      · cases hhands : i.handsIn with
        | true =>
          obtain ⟨r, ctx, rfl⟩ := EngineInput.eq_respond_of_handsIn hhands
          obtain ⟨_, _, _, houts, _⟩ := (aside_of_respond e hclosed r ctx).history
          exact ⟨_, houts⟩
        | false =>
          obtain ⟨_, _, -, hturn⟩ := turn_of_step e (hs hclosed) hhands hstop
          obtain ⟨_, houts, _⟩ := hturn.history
          exact ⟨_, houts⟩
  obtain ⟨outs, houts⟩ := hgrows
  rw [Engine.added_of_history houts, houts]

/-- What was made known in a run is what its steps `added`, one after the other. -/
theorem history_run (e : Engine σ) (page : σ) (server : Server) (is : List EngineInput) :
    (e.run is (e.initial page server)).history =
      e.collect e.added is (e.initial page server) := by
  induction is using List.reverseRecOn with
  | nil => rfl
  | append_singleton is i ih =>
    have hstep := history_step e (steady_run e is (steady_initial e page server)) i
    rw [Engine.collect_snoc, ← ih, ← hstep, Engine.run_append]
    rfl

/-- What is promised of a run on the inputs `is` that began in `s₀`, which `n` narrates. -/
structure Recounted (e : Engine σ) (s₀ : EngineState σ) (is : List EngineInput) (n : Narration) :
    Prop extends Narrates e s₀ is n where
  /-- What was made known is what the steps added. -/
  history : (e.run is s₀).history = e.collect e.added is s₀
  /-- Of every request that ended, the listeners were told in one of the two ways of `Told`. -/
  told : ∀ b ∈ n.blocks, Told b.entry b.notices
  /-- Every notice of a block is about the request of the block, so no two requests are mixed up. -/
  own : ∀ b ∈ n.blocks, ∀ notice ∈ b.notices, notice.request = b.entry.id
  /-- If every request has an id of its own, each of them begins at most once. -/
  once : (e.collect issuedAt is s₀).Nodup → (idsOf n.entries).Nodup
  /-- Of a request that was dropped nothing is told. -/
  dropped_untold : (e.collect issuedAt is s₀).Nodup → ∀ entry ∈ e.collect droppedAt is s₀,
    ∀ notice ∈ noticesOf (e.collect e.ofQueue is s₀), notice.request ≠ entry.id
  /-- A response that is handed in stands apart: it belongs to no block and changes none. -/
  aside : (e.run is s₀).closed = false → ∀ r ctx,
    Aside (e.run is s₀) ctx (e.step (.command (.respond r ctx)) (e.run is s₀))

/-- **One request after the other.** Whatever an engine is told and whatever comes of its exchanges,
    there is an `n` with the notices of the requests that its queue sends: those of one request
    after the other, in the order in which they are sent. -/
theorem recounted_run (e : Engine σ) (page : σ) (server : Server) (is : List EngineInput) :
    ∃ n, Recounted e (e.initial page server) is n := by
  obtain ⟨n, hn⟩ := narrates_run e page server is
  -- the ids taken in are distributed among three parts, so what was dropped is in none of the
  -- others
  have hids : (e.collect issuedAt is (e.initial page server)).Nodup →
      (idsOf n.entries ++ idsOf (e.run is (e.initial page server)).queue.kept ++
        idsOf (e.collect droppedAt is (e.initial page server))).Nodup :=
    fun hnodup => hn.conserved.nodup_iff.mp hnodup
  refine ⟨n, {
    toNarrates := hn
    history := history_run e page server is
    told := fun b _ => b.told
    own := fun b _ notice hnotice => Block.request_of_mem hnotice
    once := fun hnodup => ?_
    dropped_untold := ?_
    aside := fun hopen r ctx => aside_of_respond e hopen r ctx }⟩
  · have hall := hids hnodup
    rw [List.append_assoc, List.nodup_append] at hall
    exact hall.1
  · intro hnodup entry hentry notice hnotice heq
    have hall := hids hnodup
    rw [List.append_assoc, List.nodup_append] at hall
    rw [hn.notices] at hnotice
    have hdropped : entry.id ∈ idsOf (e.collect droppedAt is (e.initial page server)) :=
      List.mem_map_of_mem hentry
    exact hall.2.2 _ (Narration.request_mem hnotice) _ (List.mem_append_right _ hdropped) heq

/-- The second request begins after the first one is lost. The third one never does: it is driven
    out by the fourth. -/
example :
    let is : List EngineInput := [.command (.enqueue (Recorder.entry ⟨1⟩ "a")),
      .command (.enqueue (Recorder.entry ⟨2⟩ "b")), .signal, .signal, .command (.resize (some 1)),
      .command (.enqueue (Recorder.entry ⟨3⟩ "c")), .command (.enqueue (Recorder.entry ⟨4⟩ "d")),
      .signal, .signal]
    let s₀ := (Recorder.engine {}).initial {} { otherwise := { ending := .panic } }
    (noticesOf ((Recorder.engine {}).collect (Recorder.engine {}).ofQueue is s₀)).map
      Notice.request = [⟨1⟩, ⟨1⟩, ⟨2⟩, ⟨2⟩, ⟨4⟩] :=
  rfl

end PagePatch
