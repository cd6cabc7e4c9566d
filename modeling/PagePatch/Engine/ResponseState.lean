import PagePatch.Error

namespace PagePatch

/-!
# The states of a response

A response is parsed or found faulty, its changes are applied or an error takes their place, one
event is sent, and then it is done.

* `ResponseState.allows` — the legal steps;
* `ResponseState.advance` — takes a step or says why it is illegal.
-/

/-- How far the processing of a response has come. `terminal` is the end of every way. -/
inductive ResponseState where
  | received
  | parsed
  | errorPath
  | patchApplied
  | dispatched
  | terminal
  deriving DecidableEq, Repr

namespace ResponseState

/-- All states, in the order of their first possible time: `allows` permits no step to a state in
    front. -/
def all : List ResponseState :=
  [received, parsed, errorPath, patchApplied, dispatched, terminal]

/-- The word for a state, as the error that `advance` gives for an illegal step has it. -/
def name : ResponseState → String
  | received => "received"
  | parsed => "parsed"
  | errorPath => "error-path"
  | patchApplied => "patch-applied"
  | dispatched => "dispatched"
  | terminal => "terminal"

/-- Whether the step from the one state to the other is legal. An error may come before or after
    `parsed`, and only one event is dispatched. -/
def allows : ResponseState → ResponseState → Bool
  | received, parsed | received, errorPath | parsed, errorPath | parsed, patchApplied
  | errorPath, dispatched | patchApplied, dispatched | dispatched, terminal => true
  | _, _ => false

/-- Takes the step from `state` to `next`, or says why it is illegal. -/
def advance (state next : ResponseState) : Except Error ResponseState :=
  if state.allows next then .ok next
  else .error (.protocol ("illegal response transition " ++ state.name ++ " -> " ++ next.name))

end ResponseState

end PagePatch
