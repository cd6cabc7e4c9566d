import PagePatch.Engine.Process
import PagePatch.Proofs.Document.Told

namespace PagePatch

/-!
# How a response is judged

There are five ways in which a response can go, and each of them takes its own way through the
states of a response to the one event that tells of it.

* `Verdict` — the five ways, with the summary and the notice that each of them ends in;
* `Processor.Judges` — when a response goes which of them;
* `Processor.run_of_judges` — the processing takes legal steps only and ends in the verdict;
* `process_judged` — one event for every response, and when it is of which kind.
-/

variable {σ : Type}

/-! ### Verdicts -/

/-- How a response went, with what the listeners and the summary have to tell of it; `Judges` says
    which one it is. -/
inductive Verdict where
  /-- Its status code tells of no success, so it was not read. -/
  | refused
  /-- It could not be read by any strategy of the parser. -/
  | unreadable (f : ParseFailure)
  /-- The server reported a failure in it, under `name`. -/
  | reported (name message : String)
  /-- A change could not be applied; those before it were. -/
  | broken (e : Error)
  /-- The changes were applied, with the outcome `o`. -/
  | applied (o : Outcome)

namespace Verdict

/-- The kind of the failure that the verdict is; none for `applied`. -/
def kind? : Verdict → Option ErrorKind
  | refused => some .httpError
  | unreadable _ => some .malformedXml
  | reported .. => some .serverError
  | broken _ => some .clientError
  | applied _ => none

/-- The outcome of the changes, which only an `applied` response has. For the others everything in
    it is empty. -/
def outcome : Verdict → Outcome
  | applied o => o
  | _ => {}

/-- The summary that a response ends in when it goes the way `v`. -/
def summary (v : Verdict) : Summary where
  state := .terminal
  error := v.kind?
  applied := v.outcome.applied
  skipped := v.outcome.skipped.length
  viewState := v.outcome.viewState
  redirect := v.outcome.redirect

/-- The one thing that the listeners are told of the response `r`. -/
def notice (ctx : ResponseContext) (r : Response) : Verdict → Notice
  | refused =>
    .error (Processor.failure ctx r .httpError ("HTTP status " ++ toString r.status))
  | unreadable f => .error (Processor.failure ctx r .malformedXml f.description)
  | reported name message => .error (Processor.reported ctx r name message)
  | broken e => .error (Processor.failure ctx r .clientError e.message).withXml
  | applied _ => .event (Processor.success ctx r)

/-- What the processing of a response leaves: its one notice, `v.notice`, went to the listeners. -/
def processed (v : Verdict) (listeners : Listeners) (ctx : ResponseContext) (r : Response)
    (page : σ) : Processed σ where
  page := page
  listeners := (listeners.send ctx.callbacks (v.notice ctx r)).2
  summary := v.summary
  raised := [(v.notice ctx r, (listeners.send ctx.callbacks (v.notice ctx r)).1)]

end Verdict

/-- The notice ends a response: it is a failure of the given kind, or the success if there is
    `none`. -/
def Notice.Concludes : Notice → Option ErrorKind → Prop
  | .event e, none => e.status = .success
  | .error e, some kind => e.kind = kind
  | _, _ => False

/-- The notice of the verdict `v` is about the request of the response, and of the kind that the
    summary names. -/
theorem Verdict.notice_concludes (v : Verdict) (ctx : ResponseContext) (r : Response) :
    (v.notice ctx r).request = ctx.request ∧ (v.notice ctx r).Concludes v.summary.error := by
  cases v <;> exact ⟨rfl, rfl⟩

/-! ### When a response goes which way -/

/-- The status codes of success are those from 200 to 299, which `isSuccess` compares. -/
theorem Response.isSuccess_iff (r : Response) :
    r.isSuccess = true ↔ 200 ≤ r.status ∧ r.status ≤ 299 := by
  unfold Response.isSuccess
  rw [Bool.and_eq_true, decide_eq_true_eq, decide_eq_true_eq]
  omega

/-- The first report of a failure among the `changes` is the one that counts. -/
theorem ChangeSet.error?_eq_some_iff (changes : ChangeSet) (name message : String) :
    changes.error? = some (name, message) ↔
      ∃ before after, changes.operations = before ++ .error name message :: after ∧
        ∀ op ∈ before, op.errorReport? = none := by
  unfold ChangeSet.error?
  rw [List.findSome?_eq_some_iff]
  constructor
  · rintro ⟨before, op, after, hops, hop, hbefore⟩
    cases op <;> simp only [Operation.errorReport?, Option.some.injEq, Prod.mk.injEq,
      reduceCtorEq] at hop
    obtain ⟨rfl, rfl⟩ := hop
    exact ⟨before, after, hops, hbefore⟩
  · rintro ⟨before, after, hops, hbefore⟩
    exact ⟨before, _, after, hops, rfl, hbefore⟩

/-- The `changes` report no failure exactly if there is no such report anywhere among them. -/
theorem ChangeSet.error?_eq_none_iff (changes : ChangeSet) :
    changes.error? = none ↔ ∀ name message, .error name message ∉ changes.operations := by
  unfold ChangeSet.error?
  rw [List.findSome?_eq_none_iff]
  constructor
  · intro h name message hmem
    exact absurd (h _ hmem) (by simp [Operation.errorReport?])
  · intro h op hmem
    cases op with
    | error name message => exact absurd hmem (h name message)
    | _ => rfl

namespace Processor

open Processing

/-- When the response `r` goes which way, and which page it leaves. Each way has what excludes the
    ways before it among its conditions. -/
inductive Judges (p : Processor) (d : Document σ) (r : Response) (page : σ) : Verdict → σ → Prop
  /-- The status code tells of no success; nothing else of the response counts. -/
  | refused (hstatus : ¬ (200 ≤ r.status ∧ r.status ≤ 299)) : Judges p d r page .refused page
  /-- Otherwise the parser fails on the body. -/
  | unreadable {f : ParseFailure} (hstatus : 200 ≤ r.status ∧ r.status ≤ 299)
      (hparse : p.parser.parse r.body = .error f) : Judges p d r page (.unreadable f) page
  /-- Otherwise there is a report of a failure among the changes; the first one counts. -/
  | reported {parsed : ParsedPayload} {before after : List Operation} {name message : String}
      (hstatus : 200 ≤ r.status ∧ r.status ≤ 299) (hparse : p.parser.parse r.body = .ok parsed)
      (hops : parsed.changes.operations = before ++ .error name message :: after)
      (hbefore : ∀ op ∈ before, op.errorReport? = none) :
      Judges p d r page (.reported name message) page
  /-- Otherwise the changes end in a failure, and `page'` is what they have left by then. -/
  | broken {parsed : ParsedPayload} {e : Error} {page' : σ}
      (hstatus : 200 ≤ r.status ∧ r.status ≤ 299) (hparse : p.parser.parse r.body = .ok parsed)
      (hops : ∀ name message, .error name message ∉ parsed.changes.operations)
      (happly : d.apply p.reserved parsed.changes page = (.error e, page')) :
      Judges p d r page (.broken e) page'
  /-- Otherwise they are applied to the last one. -/
  | applied {parsed : ParsedPayload} {o : Outcome} {page' : σ}
      (hstatus : 200 ≤ r.status ∧ r.status ≤ 299) (hparse : p.parser.parse r.body = .ok parsed)
      (hops : ∀ name message, .error name message ∉ parsed.changes.operations)
      (happly : d.apply p.reserved parsed.changes page = (.ok o, page')) :
      Judges p d r page (.applied o) page'

/-- Every response `r` goes one of the five ways of `Verdict`, whatever the parser and the document
    are. -/
theorem judges_total (p : Processor) (d : Document σ) (r : Response) (page : σ) :
    ∃ v page', Judges p d r page v page' := by
  -- what can go wrong is asked for in the order in which the processing comes upon it
  by_cases hstatus : 200 ≤ r.status ∧ r.status ≤ 299
  · cases hparse : p.parser.parse r.body with
    | error f => exact ⟨_, _, .unreadable hstatus hparse⟩
    | ok parsed =>
      cases herror : parsed.changes.error? with
      | some report =>
        obtain ⟨before, after, hops, hbefore⟩ :=
          (ChangeSet.error?_eq_some_iff _ report.1 report.2).mp herror
        exact ⟨_, _, .reported hstatus hparse hops hbefore⟩
      | none =>
        have hops := (ChangeSet.error?_eq_none_iff _).mp herror
        rcases happly : d.apply p.reserved parsed.changes page with ⟨e | o, page'⟩
        · exact ⟨_, _, .broken hstatus hparse hops happly⟩
        · exact ⟨_, _, .applied hstatus hparse hops happly⟩
  · exact ⟨_, _, .refused hstatus⟩

/-! ### The way through the states -/

/-- A legal step to the state `next` is taken, and changes nothing but the state. -/
theorem advance_of_allows {p : Processed σ} {next : ResponseState}
    (h : p.summary.state.allows next = true) :
    advance next p = (.ok (), { p with summary := { p.summary with state := next } }) := by
  simp only [advance, ResponseState.advance, h, if_true]

/-- A response that was read as `parsed` goes on with what came of its changes. -/
theorem run_of_parse {p : Processor} {r : Response} {parsed : ParsedPayload}
    (hs : r.isSuccess = true) (hp : p.parser.parse r.body = .ok parsed) (d : Document σ)
    (listeners : Listeners) (ctx : ResponseContext) (page : σ) :
    p.run d ctx r { page, listeners } =
      match d.apply p.reserved parsed.changes page with
      | (.error e, page) => (.ok (), (Verdict.broken e).processed listeners ctx r page)
      | (.ok o, page) => settle ctx r o { page, listeners, summary := { state := .parsed } } := by
  simp only [run, hs, hp, Bool.not_true, Bool.false_eq_true, if_false]
  rw [Action.bind_apply, advance_of_allows rfl]
  -- what follows the legal step begins with the changes of the page
  show (onPage (d.apply p.reserved parsed.changes) >>= _) _ = _
  rw [Action.bind_apply]
  simp only [onPage]
  rcases d.apply p.reserved parsed.changes page with ⟨e | o, page'⟩ <;> rfl

/-- The `changes` without a report of a failure leave none in their outcome `o`. -/
theorem serverError_of_apply {d : Document σ} {reserved : ReservedIds} {changes : ChangeSet}
    {o : Outcome} {page page' : σ}
    (hops : ∀ name message, .error name message ∉ changes.operations)
    (happly : d.apply reserved changes page = (.ok o, page')) : o.serverError = none := by
  simp only [Document.apply, (ChangeSet.error?_eq_none_iff _).mpr hops] at happly
  exact serverError_applyAll d reserved happly

/-- **Legal steps only.** The processing of a response ends in its verdict `v`, and no step on the
    way is refused. -/
theorem run_of_judges {p : Processor} {d : Document σ} {r : Response} {page page' : σ} {v : Verdict}
    (h : Judges p d r page v page') (listeners : Listeners) (ctx : ResponseContext) :
    p.run d ctx r { page, listeners } = (.ok (), v.processed listeners ctx r page') := by
  cases h with
  | refused hstatus =>
    rw [← Response.isSuccess_iff, Bool.not_eq_true] at hstatus
    simp only [run, hstatus]
    rfl
  | unreadable hstatus hparse =>
    rw [← Response.isSuccess_iff] at hstatus
    simp only [run, hstatus, hparse]
    rfl
  | @reported parsed before after name message hstatus hparse hops hbefore =>
    -- the report is found before anything is applied, so the page is not touched
    have herror := (ChangeSet.error?_eq_some_iff _ name message).mpr ⟨_, _, hops, hbefore⟩
    rw [run_of_parse (r.isSuccess_iff.mpr hstatus) hparse]
    simp only [Document.apply, herror]
    rfl
  | broken hstatus hparse _ happly =>
    rw [run_of_parse (r.isSuccess_iff.mpr hstatus) hparse, happly]
  | applied hstatus hparse hops happly =>
    rw [run_of_parse (r.isSuccess_iff.mpr hstatus) hparse, happly]
    simp only [settle, serverError_of_apply hops happly]
    rfl

/-- So `Processor.process` ends in the verdict too: its way out for an illegal step is never
    taken. -/
theorem process_of_judges {p : Processor} {d : Document σ} {r : Response} {page page' : σ}
    {v : Verdict} (h : Judges p d r page v page') (listeners : Listeners) (ctx : ResponseContext) :
    p.process d listeners ctx r page = v.processed listeners ctx r page' := by
  unfold process
  rw [run_of_judges h]

end Processor

/-- There is one way that a response goes: any two verdicts `v` and `v'` are of the same kind and
    leave the same page. -/
theorem Processor.Judges.unique {p : Processor} {d : Document σ} {r : Response}
    {page page' page'' : σ} {v v' : Verdict} (h : Judges p d r page v page')
    (h' : Judges p d r page v' page'') : v.kind? = v'.kind? ∧ page' = page'' := by
  -- both verdicts are what one and the same processing ends in, whoever listens to it
  have heq := (run_of_judges h {} ⟨"", default, {}⟩).symm.trans
    (run_of_judges h' {} ⟨"", default, {}⟩)
  have hprocessed := congrArg Prod.snd heq
  exact ⟨congrArg (·.summary.error) hprocessed, congrArg (·.page) hprocessed⟩

/-! ### One event for every response -/

open Processor

/-- What is promised about the processing of a response, which left `a`. That the parser or the
    document was not asked is said by exchanging it: the result stays the same. -/
structure Judged (p : Processor) (d : Document σ) (listeners : Listeners) (ctx : ResponseContext)
    (r : Response) (page : σ) (a : Processed σ) : Prop where
  /-- No step is illegal, and nothing is left to do. -/
  legal : p.run d ctx r { page, listeners } = (.ok (), a)
  /-- The response is done, with nothing to follow. -/
  terminal : a.summary.state = .terminal
  /-- One event was sent: the success, or a failure of the kind that the summary names. -/
  one_event : ∃ n, a.raised = [(n, (listeners.send ctx.callbacks n).1)] ∧
    a.listeners = (listeners.send ctx.callbacks n).2 ∧
    n.request = ctx.request ∧ n.Concludes a.summary.error
  /-- There is a way that the response went, and the summary names its kind. -/
  judged : ∃ v, Judges p d r page v a.page ∧ a.summary.error = v.kind?
  /-- There is no other way that it could have gone. -/
  judged_only : ∀ v page', Judges p d r page v page' → a.summary.error = v.kind? ∧ a.page = page'
  /-- Without a status code of success neither the parser nor the document is asked. -/
  httpError_inert : a.summary.error = some .httpError → a.page = page ∧
    ∀ (p' : Processor) (d' : Document σ), p'.process d' listeners ctx r page = a
  /-- A response that cannot be read does not reach the document. -/
  malformed_inert : a.summary.error = some .malformedXml → a.page = page ∧
    ∀ d' : Document σ, p.process d' listeners ctx r page = a
  /-- Nor does a failure of the server. The first report goes to the listeners as it is, and neither
      a token nor an address is reported. -/
  serverError_inert : a.summary.error = some .serverError → a.page = page ∧
    (∀ d' : Document σ, p.process d' listeners ctx r page = a) ∧
    a.summary.viewState = none ∧ a.summary.redirect = none ∧
    ∃ e calls name message, a.raised = [(.error e, calls)] ∧
      e.serverError = some (name, message) ∧ Judges p d r page (.reported name message) page

/-- **One event for every response.** Whatever the response, the parser, the document and the
    listeners are, the processing raises exactly one event, of the kind that `Judges` lays down. -/
theorem process_judged (p : Processor) (d : Document σ) (listeners : Listeners)
    (ctx : ResponseContext) (r : Response) (page : σ) :
    Judged p d listeners ctx r page (p.process d listeners ctx r page) := by
  obtain ⟨v, page', hv⟩ := judges_total p d r page
  -- the verdict settles the result, so it is enough that another document comes to the same one
  have hsame : ∀ (p' : Processor) (d' : Document σ), Judges p' d' r page v page' →
      p'.process d' listeners ctx r page = v.processed listeners ctx r page' :=
    fun p' d' h => process_of_judges h listeners ctx
  rw [hsame p d hv]
  obtain ⟨hrequest, hconcludes⟩ := v.notice_concludes ctx r
  refine {
    legal := run_of_judges hv listeners ctx
    terminal := rfl
    one_event := ⟨v.notice ctx r, rfl, rfl, hrequest, hconcludes⟩
    judged := ⟨v, hv, rfl⟩
    judged_only := fun v' page'' hv' => hv.unique hv'
    httpError_inert := ?_
    malformed_inert := ?_
    serverError_inert := ?_ }
  · intro hkind
    cases hv with
    | refused hstatus => exact ⟨rfl, fun p' d' => hsame p' d' (.refused hstatus)⟩
    | _ => cases hkind
  · intro hkind
    cases hv with
    | unreadable hstatus hparse =>
      exact ⟨rfl, fun d' => hsame p d' (.unreadable hstatus hparse)⟩
    | _ => cases hkind
  -- the kind tells the verdict, so the other ones are out of the question
  · intro hkind
    cases hv with
    | reported hstatus hparse hops hbefore =>
      exact ⟨rfl, fun d' => hsame p d' (.reported hstatus hparse hops hbefore), rfl, rfl,
        _, _, _, _, rfl, rfl, .reported hstatus hparse hops hbefore⟩
    | _ => cases hkind

end PagePatch
