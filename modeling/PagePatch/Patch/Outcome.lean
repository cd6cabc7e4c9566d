import PagePatch.Error

namespace PagePatch

/-!
# Outcomes

* `Outcome` — what came of applying changes;
* `Outcome.append` — what came of some changes and then of others.
-/

/-- What came of applying changes, as long as none of them failed. Outcomes are joined by `append`,
    with `{}` as the neutral one. -/
structure Outcome where
  /-- How many changes did something. A change that found nothing to do counts neither here nor as
      passed over. -/
  applied : Nat := 0
  /-- Why the others were passed over, in their order. -/
  skipped : List Error := []
  /-- The last view-state token that was received. -/
  viewState : Option String := none
  /-- The address that the page left for, if one of the changes was a redirect. -/
  redirect : Option String := none
  /-- Name and message of the failure that the server reported; then nothing was applied. -/
  serverError : Option (String × String) := none
  deriving DecidableEq, Repr

namespace Outcome

/-- One change that did something, and brought nothing to remember. -/
def done : Outcome where
  applied := 1

/-- One change that was passed over for the reason `e`. -/
def skip (e : Error) : Outcome where
  skipped := [e]

/-- What came of the changes `a` and then of `b`: counts are added, lists are joined, and of two
    tokens or two addresses the later one counts. -/
def append (a b : Outcome) : Outcome where
  applied := a.applied + b.applied
  skipped := a.skipped ++ b.skipped
  viewState := b.viewState.or a.viewState
  redirect := b.redirect.or a.redirect
  serverError := b.serverError.or a.serverError

instance : Append Outcome := ⟨append⟩

end Outcome

end PagePatch
