import PagePatch.Engine.Basic
import PagePatch.Url.Parse

namespace PagePatch

/-!
# Building an engine

* `EngineBuilder` — what an engine is built from;
* `EngineBuilder.build` — the engine, or why there is none.
-/

/-- What an engine is built from: a `config`, and what may be given beside it. `EngineBuilder.build`
    makes the engine, or says what is wrong. -/
structure EngineBuilder where
  /-- The settings. -/
  config : EngineConfig := {}
  /-- The endpoint as it was written, which takes the place of the one of the settings. -/
  endpoint : Option String := none
  /-- What reads responses, if it is not the usual choice of strategies. -/
  parser : Option Parser := none
  /-- Whether there is something to run the engine; without it there is none. -/
  runtime : Bool := true

namespace EngineBuilder

/-- The settings with the `endpoint` as it was written, which `Url.parse` has to read. Without one
    the endpoint of `b.config` stays. -/
def resolve (b : EngineBuilder) : Except ConfigFault EngineConfig :=
  match b.endpoint with
  | none => .ok b.config
  | some text =>
    match Url.parse text with
    | .ok url => .ok { b.config with endpoint := some url }
    | .error cause => .error (.endpointUnreadable text cause)

/-- The engine on `document`. Faults are looked for in the runtime, the text of the endpoint and the
    settings, in this order. -/
def build {σ : Type} (b : EngineBuilder) (document : Document σ) :
    Except ConfigFault (Engine σ) := do
  unless b.runtime do throw .outsideRuntime
  let config ← b.resolve
  let endpoint ← config.validate
  pure { endpoint, config, document, parser := b.parser.getD { reserved := config.reserved } }

end EngineBuilder

end PagePatch
