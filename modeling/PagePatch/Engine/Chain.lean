namespace PagePatch.Engine

/-!
# Chains of handlers

A component may have several handlers for one event. They run in order until one declines.

* `runChain` — whether all handlers accepted, and how many of them ran.
-/

/-- Runs handlers, given by what they answer, until the first that answers `false`: whether all
    accepted, and how many ran. -/
def runChain : List Bool → Bool × Nat
  | [] => (true, 0)
  | false :: _ => (false, 1)
  | true :: rest =>
    let (result, ran) := runChain rest
    (result, ran + 1)

end PagePatch.Engine
