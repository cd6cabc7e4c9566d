import PagePatch.Proofs.Document.Told

namespace PagePatch

/-!
# The tokens that changes bring

The changes of a response bring view-state tokens, each as the markup of an update of its own. Which
ones count can be read off the changes, without a document.

* `Operation.token?` — the token that a change brings;
* `upToLeaving` — the changes up to the first redirect, and `ReservedIds.tokens` — the tokens that
  they bring;
* `Answers P a` — whenever the action `a` does not fail, its answer has the property `P`;
* `viewState_applyAll` — the token in the outcome of changes is the last one that they bring.
-/

/-! ### Tokens among changes -/

/-- The token that a change brings: if `reserved` makes it an update of the view state, the markup
    of the update without the blanks around it. -/
def Operation.token? (reserved : ReservedIds) : Operation → Option String
  | update target markup =>
    if reserved.classify target = .viewState then some (Text.trim markup) else none
  | _ => none

/-- The changes that leave the page, which are the redirects; behind one none is applied. -/
def Operation.leaves : Operation → Bool
  | redirect _ => true
  | _ => false

/-- The changes up to the first one that `leaves` the page, which is one of them. -/
def upToLeaving : List Operation → List Operation
  | [] => []
  | op :: rest => op :: if op.leaves then [] else upToLeaving rest

/-- The tokens that the changes `ops` bring, in order; those behind the first redirect are not
    looked at. -/
def ReservedIds.tokens (reserved : ReservedIds) (ops : List Operation) : List String :=
  (upToLeaving ops).filterMap (·.token? reserved)

/-! ### What actions answer -/

variable {σ α β : Type}

/-- Whenever the action `a` comes to an answer, whatever state it starts in, the answer has the
    property `P`. -/
def Answers (P : α → Prop) (a : Action σ α) : Prop :=
  ∀ s x t, a s = (.ok x, t) → P x

namespace Answers

variable {P : β → Prop}

/-- An answer with the property `P` answers so. -/
protected theorem pure {x : β} (h : P x) : Answers (σ := σ) P (pure x) := by
  rintro s _ t ⟨⟩
  exact h

/-- A failure `e` is no answer. -/
protected theorem throw (e : Error) : Answers (σ := σ) P (throw e) :=
  fun _ _ _ h => nomatch h

/-- Of the actions `a` and `f` in a row the second one answers, whatever the first one came to. -/
protected theorem bind {f : α → Action σ β} (hf : ∀ x, Answers P (f x)) (a : Action σ α) :
    Answers P (a >>= f) := by
  intro s y t h
  rw [Action.bind_apply] at h
  rcases ha : a s with ⟨_ | x, s'⟩ <;> rw [ha] at h
  · cases h
  · exact hf x s' y t h

end Answers

/-! ### Outcomes -/

/-- What is read off a change `op` before it is applied is in its outcome: the token that it brings,
    and whether it leaves the page. -/
def Foretold (reserved : ReservedIds) (op : Operation) (o : Outcome) : Prop :=
  o.viewState = op.token? reserved ∧ o.redirect.isSome = op.leaves

section

variable (d : Document σ) (reserved : ReservedIds)

/-- An update brings a token exactly if `target` stands for the view state. -/
theorem foretold_applyUpdate (target markup : String) :
    Answers (Foretold reserved (.update target markup)) (d.applyUpdate reserved target markup) := by
  -- an update of anything else comes to an outcome without a token
  have hbare : reserved.classify target ≠ .viewState → ∀ o : Outcome, o.viewState = none →
      o.redirect = none → Foretold reserved (.update target markup) o := by
    rintro hother o htoken hredirect
    exact ⟨htoken.trans (if_neg hother).symm, by rw [hredirect]; rfl⟩
  unfold Document.applyUpdate
  cases htarget : reserved.classify target with
  | viewState =>
    refine Answers.bind (fun _ => Answers.pure ⟨?_, rfl⟩) _
    exact (if_pos htarget).symm
  | head | body | root =>
    exact Answers.bind (fun _ => Answers.pure (hbare (by simp [htarget]) _ rfl rfl)) _
  | element =>
    refine Answers.bind (fun present => ?_) _
    cases present with
    | false => exact Answers.pure (hbare (by simp [htarget]) _ rfl rfl)
    | true =>
      -- the markup takes the place of the element or of what is in it, and its scripts run
      simp only [if_true]
      split
      · exact Answers.bind (fun _ => Answers.bind
          (fun _ => Answers.pure (hbare (by simp [htarget]) _ rfl rfl)) _) _
      · exact Answers.bind (fun _ => Answers.bind
          (fun _ => Answers.pure (hbare (by simp [htarget]) _ rfl rfl)) _) _

/-- **What the change `op` brings** is in its outcome, whatever the document makes of the change. -/
theorem foretold_applyOne (op : Operation) :
    Answers (Foretold reserved op) (d.applyOne reserved op) := by
  cases op with
  | update target markup => exact foretold_applyUpdate d reserved target markup
  | insert id position anchor markup =>
    refine Answers.bind (fun missing => ?_) _
    cases missing with
    | some e => exact Answers.throw _
    | none => exact Answers.bind (fun _ => Answers.pure ⟨rfl, rfl⟩) _
  | delete target =>
    refine Answers.bind (fun removed => ?_) _
    cases removed <;> exact Answers.pure ⟨rfl, rfl⟩
  | setAttribute target name value =>
    refine Answers.bind (fun missing => ?_) _
    cases missing <;> exact Answers.pure ⟨rfl, rfl⟩
  | eval code => exact Answers.bind (fun _ => Answers.pure ⟨rfl, rfl⟩) _
  | redirect url => exact Answers.bind (fun _ => Answers.pure ⟨rfl, rfl⟩) _
  | error name message => exact Answers.pure ⟨rfl, rfl⟩

/-- **The last token counts.** When the changes `ops` are applied without a failure, the token in
    their outcome is the last one that they bring up to the first redirect. -/
theorem viewState_applyAll (ops : List Operation) :
    Answers (fun o => o.viewState = (reserved.tokens ops).getLast?) (d.applyAll reserved ops) := by
  induction ops with
  | nil => exact Answers.pure rfl
  | cons op rest ih =>
    intro s o t happly
    rw [Document.applyAll, Action.bind_apply] at happly
    rcases hone : d.applyOne reserved op s with ⟨e | first, s'⟩ <;> rw [hone] at happly
    · cases happly
    -- the change at the front came to the outcome `first`, and left the page or did not
    · obtain ⟨htoken, hleaves⟩ := foretold_applyOne d reserved op s first s' hone
      have htokens : reserved.tokens (op :: rest) =
          first.viewState.toList ++ if op.leaves then [] else reserved.tokens rest := by
        rw [htoken, ReservedIds.tokens, upToLeaving, List.filterMap_cons]
        cases op.token? reserved <;> cases op.leaves <;> rfl
      rw [htokens]
      simp only [hleaves] at happly
      cases hredirect : op.leaves with
      | true =>
        rw [hredirect, if_pos rfl] at happly
        cases happly
        cases o.viewState <;> rfl
      | false =>
        rw [hredirect, if_neg Bool.false_ne_true, Action.bind_apply] at happly
        rcases hrest : d.applyAll reserved rest s' with ⟨e | others, s''⟩ <;> rw [hrest] at happly
        · cases happly
        · cases happly
          show others.viewState.or first.viewState = _
          rw [ih s' others _ hrest, if_neg Bool.false_ne_true, List.getLast?_append]
          cases first.viewState <;> rfl

/-- The same for the `changes` of a response, when the server reports no failure among them. -/
theorem viewState_apply {changes : ChangeSet} (hreport : changes.error? = none) {s t : σ}
    {o : Outcome} (h : d.apply reserved changes s = (.ok o, t)) :
    o.viewState = (reserved.tokens changes.operations).getLast? := by
  simp only [Document.apply, hreport] at h
  exact viewState_applyAll d reserved changes.operations s o t h

end

/-- Of two tokens in front of a redirect the second one counts, without the blanks around it, and
    the one behind the redirect does not. -/
example :
    ({} : ReservedIds).tokens [.update "javax.faces.ViewState" "t1", .delete "x",
      .update "form:javax.faces.ViewState" " t2 ", .redirect "/",
      .update "javax.faces.ViewState" "t3"] =
      ["t1", "t2"] := by
  decide +kernel

end PagePatch
