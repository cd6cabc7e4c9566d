import PagePatch.Page.Document
import PagePatch.Proofs.Patch.Sequence

namespace PagePatch

/-!
# Changes without code

A script host has a part only in changes that are code or bring markup, in which there may be
scripts. What the others come to is told by the page alone.

* `Operation.isQuiet` — the changes in which a host has no part;
* `ScriptHost.Alone` — an action that comes to the same with a host as without one;
* `ScriptHost.alone_applyAll` — such changes in a row.
-/

/-- The changes in which a script host has no part: they neither are code, as `eval` is, nor bring
    markup. -/
def Operation.isQuiet : Operation → Bool
  | update .. | insert .. | eval _ => false
  | delete _ | setAttribute .. | redirect _ | error .. => true

namespace ScriptHost

variable {σ α β : Type}

/-- On a page with a script host the action `a` does what `b` does on the page alone, and leaves the
    state of the host as it is. -/
def Alone (a : Action (Page × σ) α) (b : Action Page α) : Prop :=
  ∀ p state, a (p, state) = ((b p).1, (b p).2, state)

namespace Alone

/-- An answer `x` asks nothing of the host. -/
protected theorem pure (x : α) : Alone (pure x : Action (Page × σ) α) (pure x) := by
  intro p state
  rfl

/-- **Composition.** The host has a part in neither `a` nor `f`. -/
protected theorem bind {a : Action (Page × σ) α} {b : Action Page α}
    {f : α → Action (Page × σ) β} {g : α → Action Page β} (ha : Alone a b)
    (hf : ∀ x, Alone (f x) (g x)) : Alone (a >>= f) (b >>= g) := by
  intro p state
  rw [Action.bind_apply, Action.bind_apply, ha p state]
  rcases b p with ⟨e | x, q⟩
  · rfl
  · exact hf x q state

end Alone

variable (host : ScriptHost σ) (reserved : ReservedIds)

/-- An instruction `i` without code does not reach the host. -/
theorem alone_tell {i : Instruction} (hi : i.runsCode = false) :
    Alone (host.document.tell i) (Page.document.tell i) := by
  intro p state
  cases i with
  | runScript code => cases hi
  | _ => rfl

/-- Nor does an instruction `i` about an element, whatever is made of its failure. -/
theorem alone_tellElement {i : Instruction} (hi : i.runsCode = false) :
    Alone (host.document.tellElement i) (Page.document.tellElement i) := by
  intro p state
  have htold : host.document.perform i (p, state) =
      ((Page.document.perform i p).1, (Page.document.perform i p).2, state) :=
    host.alone_tell hi p state
  simp only [Document.tellElement, htold]
  rcases Page.document.perform i p with ⟨e | answer, q⟩
  · by_cases he : e.isRecoverable = true <;> simp [he]
  · rfl

/-- A change `op` without code comes to the same with a host as without one. -/
theorem alone_applyOne {op : Operation} (h : op.isQuiet = true) :
    Alone (host.document.applyOne reserved op) (Page.document.applyOne reserved op) := by
  cases op with
  | update target markup | insert id position anchor markup | eval code => cases h
  | delete target =>
    refine (host.alone_tell rfl).bind fun removed => ?_
    cases removed <;> exact Alone.pure _
  | setAttribute target name value =>
    refine (host.alone_tellElement rfl).bind fun missing => ?_
    cases missing <;> exact Alone.pure _
  | redirect url =>
    intro p state
    rfl
  | error name message => exact Alone.pure _

/-- **Changes without code.** The changes `ops` come to the same with a host as without one, and
    leave the state of the host as it is. -/
theorem alone_applyAll {ops : List Operation} (h : ∀ op ∈ ops, op.isQuiet = true) :
    Alone (host.document.applyAll reserved ops) (Page.document.applyAll reserved ops) := by
  induction ops with
  | nil => exact Alone.pure _
  | cons op rest ih =>
    rw [List.forall_mem_cons] at h
    -- a redirect ends the changes on both sides
    refine (host.alone_applyOne reserved h.1).bind fun o => ?_
    cases o.redirect.isSome with
    | true => exact Alone.pure o
    | false => exact (ih h.2).bind fun later => Alone.pure (o ++ later)

end ScriptHost

end PagePatch
