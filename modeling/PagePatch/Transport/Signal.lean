namespace PagePatch

/-!
# Signals of an exchange

* `Response` — what the server answered;
* `Stage` — how far an exchange has come, and `TransportEvent` — what is known of it by then;
* `Signal` — what is heard of an exchange while it runs.
-/

/-- What the server answered, whatever the status code is. -/
structure Response where
  /-- The status code. -/
  status : Nat
  /-- The body. -/
  body : String
  /-- The type of the body. -/
  contentType : Option String := none
  deriving DecidableEq, Repr

/-- Whether the status code tells of success: it is one of the two hundreds. -/
def Response.isSuccess (r : Response) : Bool :=
  200 ≤ r.status && r.status < 300

/-- How far an exchange has come. No stage is reported behind one of a higher `rank`. -/
inductive Stage where
  /-- The request was sent. -/
  | opened
  /-- The status code is known. -/
  | headersReceived
  /-- The body is coming in. -/
  | loading
  /-- The response is complete. -/
  | done
  deriving DecidableEq, Repr

namespace Stage

/-- The word for a stage, as callers know it. -/
def name : Stage → String
  | opened => "opened"
  | headersReceived => "headers-received"
  | loading => "loading"
  | done => "done"

/-- The place of a stage in the course of an exchange. -/
def rank : Stage → Nat
  | opened => 0
  | headersReceived => 1
  | loading => 2
  | done => 3

end Stage

/-- A stage that an exchange has reached, and what is known of it by then. The body comes with
    `done` alone. -/
structure TransportEvent where
  /-- The stage. -/
  stage : Stage
  /-- The status code, once it is known. -/
  status : Option Nat := none
  /-- The body, once it is complete. -/
  body : Option String := none
  /-- The type of the body, once it is complete. -/
  contentType : Option String := none
  /-- How much of the body is there, as a percentage. -/
  progress : Option Nat := none
  deriving DecidableEq, Repr

namespace TransportEvent

/-- The response `r` is complete, with everything that is known of it. -/
def done (r : Response) : TransportEvent where
  stage := .done
  status := some r.status
  body := some r.body
  contentType := r.contentType
  progress := some 100

/-- The response that an event brings: only the stage `done` brings one. -/
def response? (e : TransportEvent) : Option Response :=
  if e.stage = .done then
    some { status := e.status.getD 0, body := e.body.getD "", contentType := e.contentType }
  else none

end TransportEvent

/-- What is heard of an exchange while it runs: stages, and one signal that `isTerminal` at the
    end. -/
inductive Signal where
  /-- A stage was reached. -/
  | stage (e : TransportEvent)
  /-- The deadline passed; `ms` is its length. -/
  | timeout (ms : Nat)
  /-- The exchange failed. -/
  | failed (message : String)
  /-- The exchange was given up. -/
  | aborted
  deriving DecidableEq, Repr

namespace Signal

/-- Whether a signal is the last one of its exchange: the stage `done`, or any signal that is no
    stage. -/
def isTerminal : Signal → Bool
  | stage e => e.stage == .done
  | timeout _ | failed _ | aborted => true

end Signal

end PagePatch
