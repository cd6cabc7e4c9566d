import PagePatch.Document.Recorder
import PagePatch.Proofs.Document.Told

namespace PagePatch

/-!
# Change-sets in a row

Changes are applied strictly in order, so the changes of two responses can be applied as one list or
one response after the other: up to the first failure or redirect it comes to the same.

* `ChangeSet.append` — the changes of two responses;
* `Outcome.goOn` — goes on with other changes unless the page was left;
* `applyAll_append` — applying two lists of changes in a row;
* `stop_applyAll` — where a failure of a list of changes comes from;
* `InSequence`, `inSequence_apply` — the same for change-sets, with what the document is told.
-/

variable {σ : Type}

/-! ### The changes of two responses -/

namespace ChangeSet

/-- The changes of a response `a` and then those of another one `b`, taken in one by one. -/
def append (a b : ChangeSet) : ChangeSet :=
  b.operations.foldl push a

instance : Append ChangeSet := ⟨append⟩

/-- The changes `ops` without an error report are all taken in, behind those that are there. -/
theorem operations_foldl_push (ops : List Operation) (changes : ChangeSet)
    (h : ∀ op ∈ ops, op.errorReport? = none) :
    (ops.foldl push changes).operations = changes.operations ++ ops := by
  induction ops generalizing changes with
  | nil => exact (List.append_nil _).symm
  | cons op rest ih =>
    rw [List.forall_mem_cons] at h
    have hpush : (changes.push op).operations = changes.operations ++ [op] := by
      unfold push
      rw [h.1]
      rfl
    rw [List.foldl_cons, ih _ h.2, hpush, List.append_assoc]
    rfl

/-- The changes of `a ++ b` without error reports are those of `a` and then those of `b`. -/
theorem operations_append (a : ChangeSet) {b : ChangeSet} (hb : b.error? = none) :
    (a ++ b).operations = a.operations ++ b.operations :=
  operations_foldl_push b.operations a (List.findSome?_eq_none_iff.mp hb)

/-- If neither `a` nor `b` has an error report, both together have none. -/
theorem error?_append {a b : ChangeSet} (ha : a.error? = none) (hb : b.error? = none) :
    (a ++ b).error? = none := by
  have ha : a.operations.findSome? Operation.errorReport? = none := ha
  have hb' : b.operations.findSome? Operation.errorReport? = none := hb
  unfold error?
  rw [operations_append a hb, List.findSome?_append, ha, hb']
  rfl

end ChangeSet

/-- The `changes` without an error report are applied in order, all of them. -/
theorem apply_of_error?_eq_none (d : Document σ) (reserved : ReservedIds) {changes : ChangeSet}
    (h : changes.error? = none) :
    d.apply reserved changes = d.applyAll reserved changes.operations := by
  unfold Document.apply
  rw [h]

/-! ### Outcomes in a row -/

namespace Outcome

theorem append_def (a b : Outcome) :
    a ++ b = {
      applied := a.applied + b.applied
      skipped := a.skipped ++ b.skipped
      viewState := b.viewState.or a.viewState
      redirect := b.redirect.or a.redirect
      serverError := b.serverError.or a.serverError } :=
  rfl

/-- Nothing and then `o` is `o`. -/
theorem empty_append (o : Outcome) : ({} : Outcome) ++ o = o := by
  simp [append_def]

/-- Three outcomes `a`, `b` and `c` in a row, joined from the front or from the back. -/
theorem append_assoc (a b c : Outcome) : a ++ b ++ c = a ++ (b ++ c) := by
  simp [append_def, Nat.add_assoc, Option.or_assoc]

/-- Goes on with the `others` and joins what comes of them to `o`, unless the page was left. -/
def goOn (o : Outcome) (others : Action σ Outcome) : Action σ Outcome :=
  if o.redirect.isSome then pure o
  else do
    let later ← others
    pure (o ++ later)

/-- Where the page was left, nothing goes on, and the outcome `o` stays as it is. -/
theorem goOn_of_left {o : Outcome} (h : o.redirect.isSome) (others : Action σ Outcome) :
    o.goOn others = pure o :=
  if_pos h

/-- Otherwise the `others` are applied, and their outcome is joined to `o`. -/
theorem goOn_apply {o : Outcome} (h : o.redirect = none) (others : Action σ Outcome) (s : σ) :
    o.goOn others s = match others s with
      | (.ok later, t) => (.ok (o ++ later), t)
      | (.error e, t) => (.error e, t) := by
  unfold goOn
  rw [h, if_neg (by simp), Action.bind_apply]
  rcases others s with ⟨e | later, t⟩ <;> rfl

/-- Going on twice, with `a` and then with `b`, one after the other or the second time within the
    first. -/
theorem goOn_bind_goOn (o : Outcome) (a b : Action σ Outcome) :
    (o.goOn a >>= fun x => x.goOn b) = o.goOn (a >>= fun x => x.goOn b) := by
  unfold goOn
  cases hleft : o.redirect.isSome with
  | true => simp [hleft]
  | false =>
    have hnone : o.redirect = none := Option.not_isSome_iff_eq_none.mp (by simp [hleft])
    -- the page is left by both outcomes together exactly if it is by the second
    have hlater : ∀ x : Outcome, (o ++ x).redirect = x.redirect := fun x => by
      rw [append_def, hnone, Option.or_none]
    simp only [Bool.false_eq_true, if_false, bind_assoc, pure_bind, hlater]
    refine congrArg (a >>= ·) (funext fun x => ?_)
    cases x.redirect.isSome with
    | true => simp
    | false => simp [append_assoc]

end Outcome

/-! ### Changes in a row -/

section

variable (d : Document σ) (reserved : ReservedIds)

/-- A change and then the others: `Document.applyAll` in the form that the lemmas about rows of
    changes use. -/
theorem applyAll_cons (op : Operation) (rest : List Operation) :
    d.applyAll reserved (op :: rest) =
      d.applyOne reserved op >>= fun o => Outcome.goOn o (d.applyAll reserved rest) :=
  rfl

/-- **Changes in a row.** The lists `ops` and `later` in one are the first one and then, unless that
    fails or leaves the page, the second one. -/
theorem applyAll_append (ops later : List Operation) :
    d.applyAll reserved (ops ++ later) =
      d.applyAll reserved ops >>= fun o => Outcome.goOn o (d.applyAll reserved later) := by
  induction ops with
  | nil =>
    funext s
    show d.applyAll reserved later s = Outcome.goOn {} (d.applyAll reserved later) s
    rw [Outcome.goOn_apply rfl]
    simp only [Outcome.empty_append]
    rcases d.applyAll reserved later s with ⟨e | o, t⟩ <;> rfl
  | cons op rest ih =>
    rw [List.cons_append, applyAll_cons, applyAll_cons, ih, bind_assoc]
    exact congrArg _ (funext fun o => (o.goOn_bind_goOn _ _).symm)

/-- A failure `e` comes from one of the changes, `op`. Those before it were applied, and what they
    and the part of it that was carried out did to the document stays. -/
theorem stop_applyAll {ops : List Operation} {s s' : σ} {e : Error}
    (h : d.applyAll reserved ops s = (.error e, s')) :
    ∃ before op after o t, ops = before ++ op :: after ∧
      d.applyAll reserved before s = (.ok o, t) ∧ o.redirect = none ∧
      d.applyOne reserved op t = (.error e, s') := by
  induction ops generalizing s with
  | nil => cases h
  | cons op rest ih =>
    rw [applyAll_cons, Action.bind_apply] at h
    rcases hop : d.applyOne reserved op s with ⟨e' | o, t⟩ <;> rw [hop] at h
    · cases h
      exact ⟨[], op, rest, {}, s, rfl, rfl, rfl, hop⟩
    · replace h : o.goOn (d.applyAll reserved rest) t = (.error e, s') := h
      by_cases hleft : o.redirect.isSome
      · rw [Outcome.goOn_of_left hleft] at h
        cases h
      -- this change neither failed nor left the page, so the failure is one of those behind it
      · have hstay := Option.not_isSome_iff_eq_none.mp hleft
        rw [Outcome.goOn_apply hstay] at h
        rcases hrest : d.applyAll reserved rest t with ⟨e' | later, t'⟩ <;> rw [hrest] at h
        · cases h
          obtain ⟨before, op', after, o', t', rfl, hbefore, hstay', hfail⟩ := ih hrest
          refine ⟨op :: before, op', after, o ++ o', t', rfl, ?_, ?_, hfail⟩
          · rw [applyAll_cons, Action.bind_apply, hop]
            simp only [Outcome.goOn_apply hstay, hbefore]
          · rw [Outcome.append_def, hstay, hstay']
            rfl
        · cases h

end

/-! ### Change-sets in a row -/

/-- Applying the changes of two responses `a` and `b` as one change-set is applying them one after
    the other. -/
structure InSequence (d : Document σ) (reserved : ReservedIds) (a b : ChangeSet) : Prop where
  /-- If the first changes fail, so do both, and the document is as the first ones left it. -/
  failed : ∀ {s e t}, d.apply reserved a s = (.error e, t) →
    d.apply reserved (a ++ b) s = (.error e, t)
  /-- If the first changes leave the page, the others are dropped. -/
  left : ∀ {s o t}, d.apply reserved a s = (.ok o, t) → o.redirect.isSome →
    d.apply reserved (a ++ b) s = (.ok o, t)
  /-- Otherwise a failure of the others is one of both. -/
  failed_later : ∀ {s o t e u}, d.apply reserved a s = (.ok o, t) → o.redirect = none →
    d.apply reserved b t = (.error e, u) → d.apply reserved (a ++ b) s = (.error e, u)
  /-- Without a failure the outcomes are joined: what was done is added up, what was passed over is
      put together, and of token and redirect the later one counts. -/
  joined : ∀ {s o t p u}, d.apply reserved a s = (.ok o, t) → o.redirect = none →
    d.apply reserved b t = (.ok p, u) →
      d.apply reserved (a ++ b) s = (.ok {
        applied := o.applied + p.applied
        skipped := o.skipped ++ p.skipped
        viewState := p.viewState.or o.viewState
        redirect := p.redirect.or o.redirect }, u)
  /-- The document is told what the first changes tell it and then what the others tell it, and
      nothing of the others if the first ones fail or leave the page. -/
  told : ∀ s told, ∃ first later,
    d.noted.apply reserved a (s, told) =
      ((d.apply reserved a s).1, (d.apply reserved a s).2, told ++ first) ∧
    d.noted.apply reserved (a ++ b) (s, told) =
      ((d.apply reserved (a ++ b) s).1, (d.apply reserved (a ++ b) s).2, told ++ first ++ later) ∧
    (∀ o t, d.apply reserved a s = (.ok o, t) → o.redirect = none →
      d.noted.apply reserved b (t, told ++ first) =
        ((d.apply reserved b t).1, (d.apply reserved b t).2, told ++ first ++ later)) ∧
    ((∀ o t, d.apply reserved a s = (.ok o, t) → o.redirect.isSome) → later = [])
  /-- A failure is that of one change, and the document is as this change left it when it was
      applied behind those before it. -/
  kept : ∀ {s e u}, d.apply reserved (a ++ b) s = (.error e, u) →
    ∃ before op after o t, a.operations ++ b.operations = before ++ op :: after ∧
      d.applyAll reserved before s = (.ok o, t) ∧ o.redirect = none ∧
      d.applyOne reserved op t = (.error e, u)

section

variable (d : Document σ) (reserved : ReservedIds) {a b : ChangeSet}

/-- The change-set `a ++ b` is `a` and then, unless that fails or leaves the page, `b`. -/
theorem apply_append (ha : a.error? = none) (hb : b.error? = none) :
    d.apply reserved (a ++ b) =
      d.apply reserved a >>= fun o => Outcome.goOn o (d.apply reserved b) := by
  rw [apply_of_error?_eq_none d reserved (ChangeSet.error?_append ha hb),
    apply_of_error?_eq_none d reserved ha, apply_of_error?_eq_none d reserved hb,
    ChangeSet.operations_append a hb, applyAll_append]

/-- What a document is told while changes are applied comes behind what it was `told` before. -/
theorem noted_apply (ha : a.error? = none) (s : σ) (told : List Instruction) :
    ∃ new, d.noted.apply reserved a (s, told) =
      ((d.apply reserved a s).1, (d.apply reserved a s).2, told ++ new) := by
  rw [apply_of_error?_eq_none d reserved ha, apply_of_error?_eq_none d.noted reserved ha]
  obtain ⟨new, heq, -⟩ := tells_applyAll d reserved a.operations s told
  exact ⟨new, heq⟩

/-- What a document is told while two change-sets in one are applied: first what `a` tells it, and
    then what `b` does. -/
theorem told_append (ha : a.error? = none) (hb : b.error? = none) (s : σ)
    (told : List Instruction) : ∃ first later,
      d.noted.apply reserved a (s, told) =
        ((d.apply reserved a s).1, (d.apply reserved a s).2, told ++ first) ∧
      d.noted.apply reserved (a ++ b) (s, told) =
        ((d.apply reserved (a ++ b) s).1, (d.apply reserved (a ++ b) s).2,
          told ++ first ++ later) ∧
      (∀ o t, d.apply reserved a s = (.ok o, t) → o.redirect = none →
        d.noted.apply reserved b (t, told ++ first) =
          ((d.apply reserved b t).1, (d.apply reserved b t).2, told ++ first ++ later)) ∧
      ((∀ o t, d.apply reserved a s = (.ok o, t) → o.redirect.isSome) → later = []) := by
  obtain ⟨first, hfirst⟩ := noted_apply d reserved ha s told
  -- the same equation on the document and on the one that notes what it is told
  have hboth := congrFun (apply_append d reserved ha hb) s
  have hnoted := congrFun (apply_append d.noted reserved ha hb) (s, told)
  rw [Action.bind_apply] at hboth hnoted
  rw [hfirst] at hnoted
  rcases hrun : d.apply reserved a s with ⟨e | o, t⟩ <;> rw [hrun] at hboth hnoted hfirst
  -- a failure of the first changes is one of both
  · refine ⟨first, [], hfirst, ?_, nofun, fun _ => rfl⟩
    rw [hnoted, hboth, List.append_nil]
  replace hboth : _ = o.goOn (d.apply reserved b) t := hboth
  replace hnoted : _ = o.goOn (d.noted.apply reserved b) (t, told ++ first) := hnoted
  by_cases hleft : o.redirect.isSome
  -- the page is left, and nothing of the others is told
  · rw [Outcome.goOn_of_left hleft] at hboth hnoted
    refine ⟨first, [], hfirst, ?_, ?_, fun _ => rfl⟩
    · rw [hnoted, hboth, List.append_nil]
      rfl
    · rintro _ _ ⟨⟩ hstay
      rw [hstay] at hleft
      cases hleft
  · have hstay := Option.not_isSome_iff_eq_none.mp hleft
    obtain ⟨later, hlater⟩ := noted_apply d reserved hb t (told ++ first)
    rw [Outcome.goOn_apply hstay] at hboth hnoted
    rw [hlater] at hnoted
    refine ⟨first, later, hfirst, ?_, ?_, fun h => absurd (h o t rfl) hleft⟩
    · rw [hnoted, hboth]
      rcases d.apply reserved b t with ⟨e | p, u⟩ <;> rfl
    · rintro _ _ ⟨⟩ -
      exact hlater

end

/-- **In sequence.** The change-sets `a` and `b` without error reports can be applied as one: the
    document is told the same in the same order and is left the same, and of the outcomes one is
    made. -/
theorem inSequence_apply (d : Document σ) (reserved : ReservedIds) {a b : ChangeSet}
    (ha : a.error? = none) (hb : b.error? = none) : InSequence d reserved a b := by
  have hboth := apply_append d reserved ha hb
  constructor
  case failed =>
    intro s e t hfirst
    rw [hboth, Action.bind_apply, hfirst]
  case left =>
    intro s o t hfirst hleft
    rw [hboth, Action.bind_apply, hfirst]
    simp only [Outcome.goOn_of_left hleft]
    rfl
  case failed_later =>
    intro s o t e u hfirst hstay hlater
    rw [hboth, Action.bind_apply, hfirst]
    simp only [Outcome.goOn_apply hstay, hlater]
  case joined =>
    -- what only a failure of the server would bring is absent in both
    intro s o t p u hfirst hstay hlater
    rw [hboth, Action.bind_apply, hfirst]
    simp only [Outcome.goOn_apply hstay, hlater]
    rw [apply_of_error?_eq_none d reserved ha] at hfirst
    rw [apply_of_error?_eq_none d reserved hb] at hlater
    rw [Outcome.append_def, serverError_applyAll d reserved hfirst,
      serverError_applyAll d reserved hlater]
    rfl
  case told => exact told_append d reserved ha hb
  case kept =>
    -- as one list of changes the failure is found at one of them
    intro s e u hfail
    rw [apply_of_error?_eq_none d reserved (ChangeSet.error?_append ha hb),
      ChangeSet.operations_append a hb] at hfail
    exact stop_applyAll d reserved hfail

/-- A response that hands over the token `t2` and runs code, and removes what is gone already. -/
def ChangeSet.tokenAndCode : ChangeSet :=
  .ofList [.update "javax.faces.ViewState" " t2 ", .eval "a()", .delete "gone"]

/-- A response that removes the element `p` and then inserts next to it, so that its insert
    fails. -/
def ChangeSet.lostAnchor : ChangeSet :=
  .ofList [.delete "p", .insert none .after "p" "<hr>", .eval "b()"]

/-- The failure of `lostAnchor` keeps the effects of `tokenAndCode` and the removal of its own. -/
theorem inSequence_lostAnchor :
    ChangeSet.tokenAndCode.error? = none ∧ ChangeSet.lostAnchor.error? = none ∧
      InSequence Recorder.document {} ChangeSet.tokenAndCode ChangeSet.lostAnchor :=
  ⟨rfl, rfl, inSequence_apply Recorder.document {} rfl rfl⟩

end PagePatch
