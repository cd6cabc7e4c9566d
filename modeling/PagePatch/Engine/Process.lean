import PagePatch.Engine.ResponseState
import PagePatch.Listener
import PagePatch.Patch.Apply
import PagePatch.Payload.Parse
import PagePatch.Transport.Signal

namespace PagePatch

/-!
# Processing a response

A response is read, its changes are applied, and one notice tells how that went.

* `ResponseContext` — whom a response belongs to;
* `Summary` — what came of a response;
* `Processing` — steps of the processing of a response;
* `Processor.run` — reads a response, applies its changes and tells the listeners;
* `Processor.process` — what that leaves.

Every state that a response goes through is checked as it is entered.
-/

/-- Whom a response belongs to: the `source` and the `request` that every event about it names, and
    the listeners of that request. -/
structure ResponseContext where
  /-- The element that triggered the request, which the events name. -/
  source : String
  /-- The id of the request. -/
  request : RequestId
  /-- The listeners of the request itself, beside the page-wide ones. -/
  callbacks : Callbacks := {}
  deriving DecidableEq, Repr

/-- What came of a response: how far it went, how it failed, and the counts and the token of the
    `Outcome` of its changes. -/
structure Summary where
  /-- How far its processing came. -/
  state : ResponseState := .received
  /-- How it failed, if it did; the listeners were told so with the same kind. -/
  error : Option ErrorKind := none
  /-- How many of the changes did something on the page. -/
  applied : Nat := 0
  /-- How many of the changes were passed over, as there was nothing for them to do. -/
  skipped : Nat := 0
  /-- The view-state token that it brought, which the next request is given. -/
  viewState : Option String := none
  /-- The address that the page left for, if the changes asked for that. -/
  redirect : Option String := none
  deriving DecidableEq, Repr

/-- What the processing of a response has come to, from step to step: the page, the listeners, the
    calls made so far and the `Summary`. -/
structure Processed (σ : Type) where
  /-- The page. -/
  page : σ
  /-- The page-wide listeners. -/
  listeners : Listeners
  /-- What came of the response. -/
  summary : Summary := {}
  /-- What the listeners were told, with their calls, in order. -/
  raised : List (Notice × List Call) := []

/-- Steps of the processing of a response, up to an illegal one, which only `advance` can report. A
    response that fails goes on: that is no illegal step. -/
abbrev Processing (σ α : Type) := ExceptT Error (StateM (Processed σ)) α

namespace Processing

variable {σ : Type}

/-- Enters the state `next`, or stops if this is not legal from the state that the response is
    in. -/
def advance (next : ResponseState) : Processing σ Unit := fun p =>
  match p.summary.state.advance next with
  | .ok state => (.ok (), { p with summary := { p.summary with state } })
  | .error e => (.error e, p)

/-- Notes something about what came of the response: `f` changes the `summary` and nothing else. -/
def note (f : Summary → Summary) : Processing σ Unit := fun p =>
  (.ok (), { p with summary := f p.summary })

/-- Tells the listeners of the notice `n`, and notes their calls. -/
def raise (callbacks : Callbacks) (n : Notice) : Processing σ Unit := fun p =>
  let (calls, listeners) := p.listeners.send callbacks n
  (.ok (), { p with listeners, raised := p.raised ++ [(n, calls)] })

/-- Acts on the page by `act`. A failure of `act` is an answer like any other, and the page is kept
    as the failure left it. -/
def onPage {α : Type} (act : Action σ α) : Processing σ (Except Error α) := fun p =>
  let (result, page) := act p.page
  (.ok result, { p with page })

/-- Tells the listeners of the failure `e`, and notes its kind. -/
def raiseError (callbacks : Callbacks) (e : ErrorEvent) : Processing σ Unit := do
  note fun s => { s with error := some e.kind }
  raise callbacks (.error e)

/-- Tells the listeners of the failure `e`, and that is the end of the response. -/
def finishError (callbacks : Callbacks) (e : ErrorEvent) : Processing σ Unit := do
  raiseError callbacks e
  advance .dispatched
  advance .terminal

end Processing

/-- What reads responses and applies their changes: a `Parser` and the reserved ids. -/
structure Processor where
  /-- What reads payloads: a structured one, or what is left of a broken one. -/
  parser : Parser := {}
  /-- The ids with a meaning of their own, as the applier knows them. -/
  reserved : ReservedIds := {}

namespace Processor

open Processing

variable {σ : Type}

/-- The event that the response `r` failed, with its status and its body. Whether the body counts as
    XML is left to `ErrorEvent.withXml`. -/
def failure (ctx : ResponseContext) (r : Response) (kind : ErrorKind) (description : String) :
    ErrorEvent :=
  ({ kind, description, source := ctx.source, request := ctx.request } : ErrorEvent).withResponse
    r.status r.body

/-- The event that the server reported a failure of its own, under `name`. Without a message the
    name describes it. -/
def reported (ctx : ResponseContext) (r : Response) (name message : String) : ErrorEvent :=
  ((failure ctx r .serverError (if message.isEmpty then name else message)).withXml).withServerError
    name message

/-- The event that the changes of the response `r` were applied, with its status and its body. -/
def success (ctx : ResponseContext) (r : Response) : LifecycleEvent where
  status := .success
  source := ctx.source
  request := ctx.request
  response := some (r.status, r.body)

/-- Goes on from the `outcome` of the changes of a response. An error that the server reported there
    (`outcome.serverError`) takes the place of the success. -/
def settle (ctx : ResponseContext) (r : Response) (outcome : Outcome) : Processing σ Unit := do
  note fun s => { s with applied := outcome.applied, skipped := outcome.skipped.length }
  match outcome.serverError with
  | some (name, message) =>
    advance .errorPath
    finishError ctx.callbacks (reported ctx r name message)
  | none =>
    -- a token is noted only here, on the way of a success
    note fun s => { s with viewState := outcome.viewState, redirect := outcome.redirect }
    advance .patchApplied
    raise ctx.callbacks (.event (success ctx r))
    advance .dispatched
    advance .terminal

/-- Reads the response `r`, applies its changes to `d` and tells the listeners. A response that is
    not `isSuccess` is not read at all. -/
def run (p : Processor) (d : Document σ) (ctx : ResponseContext) (r : Response) :
    Processing σ Unit := do
  if !r.isSuccess then
    advance .errorPath
    finishError ctx.callbacks (failure ctx r .httpError ("HTTP status " ++ toString r.status))
  else
    let result := p.parser.parse r.body
    advance .parsed
    match result with
    | .error f =>
      advance .errorPath
      finishError ctx.callbacks (failure ctx r .malformedXml f.description)
    | .ok parsed =>
      -- the page is as the changes left it, also where one of them failed
      match ← onPage (d.apply p.reserved parsed.changes) with
      | .error e =>
        advance .errorPath
        finishError ctx.callbacks (failure ctx r .clientError e.message).withXml
      | .ok outcome => settle ctx r outcome

/-- Processes the response `r` on `page`. An illegal step on the way would be told to the listeners
    as a failure of kind `clientError`, but `run` takes none. -/
def process (p : Processor) (d : Document σ) (listeners : Listeners) (ctx : ResponseContext)
    (r : Response) (page : σ) : Processed σ :=
  match p.run d ctx r { page, listeners } with
  | (.ok (), done) => done
  | (.error e, stuck) =>
    (raiseError ctx.callbacks (failure ctx r .clientError e.message) stuck).2

end Processor

end PagePatch
