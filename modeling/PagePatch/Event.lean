import PagePatch.RequestId

namespace PagePatch

/-!
# Events

What listeners are told about a request.

* `LifecycleEvent` — a request began, its response arrived, or its changes were applied;
* `ErrorEvent` — a request failed, and how.
-/

/-- The stages of a request that goes well, in their order. A request that fails has `begin`,
    perhaps `complete`, and then an `ErrorEvent`. -/
inductive EventStatus where
  | begin
  | complete
  | success
  deriving DecidableEq, Repr

/-- The word for a stage, as listeners know it. -/
def EventStatus.name : EventStatus → String
  | begin => "begin"
  | complete => "complete"
  | success => "success"

/-- The request `request` of the element `source` has reached a stage. -/
structure LifecycleEvent where
  /-- The stage. -/
  status : EventStatus
  /-- The element that triggered the request. -/
  source : String
  /-- The id of the request. -/
  request : RequestId
  /-- The status code and the body of the response, once there is one. -/
  response : Option (Nat × String) := none
  deriving DecidableEq, Repr

/-- The ways in which a request fails. Each request fails in one of them at most, by one
    `ErrorEvent`. -/
inductive ErrorKind where
  /-- No response, or one whose status is not a success. -/
  | httpError
  /-- The server reported a failure. -/
  | serverError
  /-- The response could not be read. -/
  | malformedXml
  /-- A change could not be applied. -/
  | clientError
  deriving DecidableEq, Repr

/-- The word for a way of failing, as listeners know it. -/
def ErrorKind.name : ErrorKind → String
  | httpError => "httpError"
  | serverError => "serverError"
  | malformedXml => "malformedXML"
  | clientError => "clientError"

/-- A request failed. The fields behind `request` hold what is known of the response, if there is
    one. -/
structure ErrorEvent where
  /-- How it failed. -/
  kind : ErrorKind
  /-- What happened, in words. -/
  description : String
  /-- The element that triggered the request. -/
  source : String
  /-- The id of the request. -/
  request : RequestId
  /-- The name and the message of the failure that the server reported. -/
  serverError : Option (String × String) := none
  /-- The status code of the response, zero without one. -/
  responseCode : Nat := 0
  /-- The body of the response. -/
  responseText : Option String := none
  /-- The body of the response, when it was read as a partial response. -/
  responseXml : Option String := none
  deriving DecidableEq, Repr

namespace ErrorEvent

/-- Adds the status `code` and the body of the response. -/
def withResponse (e : ErrorEvent) (code : Nat) (text : String) : ErrorEvent :=
  { e with responseCode := code, responseText := some text }

/-- Marks the body as one that was read as a partial response, whatever way it was read:
    `responseXml` becomes a copy of `responseText`. -/
def withXml (e : ErrorEvent) : ErrorEvent :=
  { e with responseXml := e.responseText }

/-- Adds the `name` and the `message` of the failure that the server reported. -/
def withServerError (e : ErrorEvent) (name message : String) : ErrorEvent :=
  { e with serverError := some (name, message) }

end ErrorEvent

/-- What a listener is told: a stage or a failure. Its `topic` decides which listeners are
    called. -/
inductive Notice where
  | event (e : LifecycleEvent)
  | error (e : ErrorEvent)
  deriving DecidableEq, Repr

/-- The request that a notice is about. -/
def Notice.request : Notice → RequestId
  | event e => e.request
  | error e => e.request

end PagePatch
