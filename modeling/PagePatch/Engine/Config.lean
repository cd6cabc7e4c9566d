import PagePatch.Change.Target
import PagePatch.Error
import PagePatch.Transport.Exchange

namespace PagePatch

/-!
# Configuration of the engine

* `EngineConfig` — the settings, with their defaults;
* `ConfigFault` — why a configuration is unusable;
* `EngineConfig.validate` — the endpoint of a usable configuration.
-/

/-- Why a configuration is unusable, so that no engine is built from it. `message` words each
    fault. -/
inductive ConfigFault where
  | outsideRuntime
  | endpointUnreadable (text : String) (cause : Url.ParseError)
  | endpointMissing
  | schemeUnsupported (endpoint : Url)
  | reservedIdEmpty
  deriving DecidableEq, Repr

namespace ConfigFault

/-- The wording of a fault, as the error of the build has it. -/
def message : ConfigFault → String
  | outsideRuntime => "Engine must be built from within a tokio runtime"
  | endpointUnreadable text cause => "Invalid endpoint '" ++ text ++ "': " ++ cause.message
  | endpointMissing => "Endpoint is required. Use .endpoint() to set it.\n" ++
      "Example: Engine::builder().endpoint(\"http://localhost:8080/app/page.xhtml\")"
  | schemeUnsupported endpoint =>
    "Endpoint must be http or https, got: " ++ endpoint.toString
  | reservedIdEmpty => "Reserved ids must not be empty"

/-- The fault as an error of the kind `Error.config`. -/
def toError (fault : ConfigFault) : Error :=
  .config fault.message

end ConfigFault

/-- The settings of an engine, each with the value that it has unless another one is given;
    `validate` says which of them are usable. -/
structure EngineConfig where
  /-- Where requests are sent. There is no usual endpoint, so one has to be given. -/
  endpoint : Option Url := none
  /-- How much of an exchange is reported while it goes on. -/
  transport : TransportKind := .streaming
  /-- The deadline of requests without one of their own, in whole milliseconds; zero is none. -/
  timeout : Nat := 0
  /-- The bound on the number of waiting requests; `none` lets any number wait. -/
  queueSize : Option Nat := none
  /-- The ids that stand for regions, or for the view-state token. -/
  reserved : ReservedIds := {}
  /-- The view-state token that requests are given until the server issues one. -/
  viewState : Option String := none
  deriving DecidableEq, Repr

/-- Whether one of the reserved ids is empty, which `EngineConfig.validate` lets pass in no
    configuration. -/
def ReservedIds.hasEmpty (r : ReservedIds) : Bool :=
  r.head.isEmpty || r.body.isEmpty || r.root.isEmpty || r.viewState.isEmpty

/-- The endpoint of a usable configuration: it is present and of a web scheme, and the reserved ids
    pass `hasEmpty`. The faults are looked for in this order, and the first one is reported. -/
def EngineConfig.validate (config : EngineConfig) : Except ConfigFault Url :=
  match config.endpoint with
  | none => .error .endpointMissing
  | some endpoint =>
    if endpoint.scheme ≠ "http" ∧ endpoint.scheme ≠ "https" then
      .error (.schemeUnsupported endpoint)
    else if config.reserved.hasEmpty then .error .reservedIdEmpty
    else .ok endpoint

end PagePatch
