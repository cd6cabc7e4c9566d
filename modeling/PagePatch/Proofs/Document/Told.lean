import PagePatch.Patch.Apply

namespace PagePatch

/-!
# What a document is told

A noted document answers like the document that it notes, and keeps what it was told besides. So a
statement about the instructions that an action gives is a statement about the action on a noted
document.

* `Logs P a b` — on a document with a log `a` does what `b` does on the document itself, and `P`
  relates what was logged on the way to how it ended;
* `Tells P a b` — the same on a noted document, whose log is what it was told;
* `Logs.pure`, `Logs.bind` — what an answer logs, and what an action and then another one do;
* `tells_applyAll` — the last token that a document is told while changes are applied is the token
  in their outcome.
-/

variable {σ α β : Type}

/-! ### Actions one after another -/

/-- An action `a` and then another one `f`: the second starts where the first one ended, unless that
    failed. -/
theorem Action.bind_apply (a : Action σ α) (f : α → Action σ β) (s : σ) :
    (a >>= f) s = match a s with
      | (.ok x, s) => f x s
      | (.error e, s) => (.error e, s) := by
  show StateT.bind a (ExceptT.bindCont f) s = _
  simp only [StateT.bind, bind]
  rcases a s with ⟨_ | _, t⟩ <;> rfl

/-- After an answer `x` the second action decides how both of them end. -/
theorem Action.bind_of_ok {a : Action σ α} {s t : σ} {x : α} (h : a s = (.ok x, t))
    (f : α → Action σ β) : (a >>= f) s = f x t := by
  rw [Action.bind_apply, h]

/-- After a failure of `a` the second action `f` does nothing. -/
theorem Action.bind_of_error {a : Action σ α} {s t : σ} {e : Error} (h : a s = (.error e, t))
    (f : α → Action σ β) : (a >>= f) s = (.error e, t) := by
  rw [Action.bind_apply, h]

/-- An action `a` whose answer does not matter is that action and then an answer without content. -/
theorem Action.discard_eq_bind (a : Action σ α) : discard a = a >>= fun _ => pure () := by
  rw [Functor.discard, LawfulFunctor.map_const, Function.comp_apply, map_eq_pure_bind]

/-! ### Logs -/

/-- On a document with a log `a` does what `b` does on the document itself, and `P` relates what was
    logged on the way to how it ended. -/
def Logs {κ : Type} (P : List κ → Except Error α → Prop) (a : Action (σ × List κ) α)
    (b : Action σ α) : Prop :=
  ∀ s log, ∃ new, a (s, log) = ((b s).1, (b s).2, log ++ new) ∧ P new (b s).1

namespace Logs

variable {κ : Type} {P : List κ → Except Error α → Prop} {Q : α → List κ → Except Error β → Prop}
  {R : List κ → Except Error β → Prop}

/-- An answer logs nothing, so `P` has to hold of it with an empty log. -/
protected theorem pure {x : α} (h : P [] (.ok x)) :
    Logs (σ := σ) P (pure x) (pure x) := by
  intro s log
  exact ⟨[], by rw [List.append_nil]; rfl, h⟩

/-- A failure `e` logs nothing either. -/
protected theorem throw {e : Error} (h : P [] (.error e)) :
    Logs (σ := σ) P (throw e) (throw e) := by
  intro s log
  exact ⟨[], by rw [List.append_nil]; rfl, h⟩

/-- **Composition.** What is logged by `a` and then by `f` is related by `R` to how the second one
    ended, or to the failure of the first. -/
protected theorem bind {a : Action (σ × List κ) α} {b : Action σ α}
    {f : α → Action (σ × List κ) β} {g : α → Action σ β} (ha : Logs P a b)
    (hf : ∀ x, Logs (Q x) (f x) (g x))
    (hok : ∀ new x later r, P new (.ok x) → Q x later r → R (new ++ later) r)
    (herror : ∀ new e, P new (.error e) → R new (.error e)) :
    Logs R (a >>= f) (b >>= g) := by
  intro s log
  obtain ⟨new, heq, hP⟩ := ha s log
  rw [Action.bind_apply, Action.bind_apply, heq]
  rcases hb : b s with ⟨e | x, t⟩ <;> rw [hb] at hP
  · exact ⟨new, rfl, herror new e hP⟩
  -- the second action goes on from what the first one logged
  · obtain ⟨later, heq', hQ⟩ := hf x t (log ++ new)
    refine ⟨new ++ later, ?_, hok new x later _ hP hQ⟩
    rw [← List.append_assoc]
    exact heq'

/-- What follows from `P` is related to how the action ended, if `P` is. -/
protected theorem imp {P' : List κ → Except Error α → Prop} {a : Action (σ × List κ) α}
    {b : Action σ α} (h : Logs P a b) (himp : ∀ new r, P new r → P' new r) : Logs P' a b := by
  intro s log
  obtain ⟨new, heq, hP⟩ := h s log
  exact ⟨new, heq, himp new _ hP⟩

end Logs

/-! ### Telling -/

/-- On a noted document `a` does what `b` does on the document itself, and `P` relates the
    instructions told on the way to how it ended: `Logs` where the log is made of instructions. -/
abbrev Tells (P : List Instruction → Except Error α → Prop)
    (a : Action (σ × List Instruction) α) (b : Action σ α) : Prop :=
  Logs P a b

namespace Tells

/-- The instruction `i` tells itself and nothing else, whatever the document answers. -/
theorem tell (d : Document σ) (i : Instruction) {P : List Instruction → Except Error Bool → Prop}
    (h : ∀ r, P [i] r) : Tells P (d.noted.tell i) (d.tell i) := by
  intro s told
  exact ⟨[i], rfl, h _⟩

/-- The question for `id` tells nothing, as it is no instruction. -/
theorem asks (d : Document σ) (id : String) {P : List Instruction → Except Error Bool → Prop}
    (h : ∀ x, P [] (.ok x)) : Tells P (d.noted.asks id) (d.asks id) := by
  intro s told
  exact ⟨[], by rw [List.append_nil]; rfl, h _⟩

end Tells

/-! ### Tokens -/

/-- The view-state token that an instruction hands over, if it is an `updateViewState`. -/
def Instruction.token? : Instruction → Option String
  | updateViewState token => some token
  | _ => none

/-- The tokens among the instructions `is`, in order. -/
def tokensOf (is : List Instruction) : List String :=
  is.filterMap Instruction.token?

@[simp] theorem tokensOf_append (a b : List Instruction) :
    tokensOf (a ++ b) = tokensOf a ++ tokensOf b :=
  List.filterMap_append

/-- No token is among the instructions `new` that were told, however the action ended. -/
def NoToken (new : List Instruction) (_ : Except Error α) : Prop :=
  tokensOf new = []

/-- If there is an outcome, it holds the last token among `new`, and no failure reported by the
    server. -/
def TokenReported (new : List Instruction) (r : Except Error Outcome) : Prop :=
  ∀ o, r = .ok o → o.serverError = none ∧ o.viewState = (tokensOf new).getLast?

namespace Tells

/-- Without a token in `a` and in `f`, there is none in both of them. -/
theorem bind_noToken {a : Action (σ × List Instruction) α} {b : Action σ α}
    {f : α → Action (σ × List Instruction) β} {g : α → Action σ β} (ha : Tells NoToken a b)
    (hf : ∀ x, Tells NoToken (f x) (g x)) : Tells NoToken (a >>= f) (b >>= g) := by
  refine ha.bind (Q := fun _ => NoToken) hf ?_ (fun _ _ h => h)
  intro new x later r hnew hlater
  show tokensOf (new ++ later) = []
  rw [tokensOf_append, show tokensOf new = [] from hnew, show tokensOf later = [] from hlater]
  rfl

/-- After the action `a` without a token, an outcome of `f` holds the last token all the same. -/
theorem bind_reported {a : Action (σ × List Instruction) α} {b : Action σ α}
    {f : α → Action (σ × List Instruction) Outcome} {g : α → Action σ Outcome}
    (ha : Tells NoToken a b) (hf : ∀ x, Tells TokenReported (f x) (g x)) :
    Tells TokenReported (a >>= f) (b >>= g) := by
  refine ha.bind (Q := fun _ => TokenReported) hf ?_ ?_
  · intro new x later r hnew hlater o ho
    rw [tokensOf_append, show tokensOf new = [] from hnew, List.nil_append]
    exact hlater o ho
  · intro new e _ o ho
    cases ho

/-- An outcome `o` without a token, when nothing was told. -/
theorem pure_reported {o : Outcome} (hs : o.serverError = none) (hv : o.viewState = none) :
    Tells (σ := σ) TokenReported (pure o) (pure o) := by
  refine Logs.pure ?_
  rintro _ ⟨⟩
  exact ⟨hs, hv⟩

/-- An instruction `i` without a token, whatever its answer is. -/
theorem discard_tell (d : Document σ) {i : Instruction} (hi : i.token? = none) :
    Tells NoToken (discard (d.noted.tell i)) (discard (d.tell i)) := by
  rw [Action.discard_eq_bind, Action.discard_eq_bind]
  refine bind_noToken (Tells.tell d i fun _ => ?_) (fun _ => Logs.pure rfl)
  simp [NoToken, tokensOf, hi]

end Tells

/-! ### Tokens while changes are applied -/

section

variable (d : Document σ)

/-- The `scripts` are told no token: they are run, and no more. -/
theorem tells_runScripts (scripts : List Html.Script) :
    Tells NoToken (d.noted.runScripts scripts) (d.runScripts scripts) := by
  induction scripts with
  | nil => exact Logs.pure rfl
  | cons script rest ih =>
    refine Tells.bind_noToken ?_ (fun _ => ih)
    cases script with
    | inline code => exact Tells.discard_tell d rfl
    | external address => exact Tells.discard_tell d rfl

/-- A `region` is exchanged, and its scripts are run, without a token. -/
theorem tells_replaceRegion (region : Html.Region) (s : Html.Section) :
    Tells NoToken (d.noted.replaceRegion region s) (d.replaceRegion region s) :=
  Tells.bind_noToken (Tells.discard_tell d rfl) fun _ => tells_runScripts d _

/-- The whole page is exchanged for `markup` without a token, region by region. -/
theorem tells_updateRoot (markup : String) :
    Tells NoToken (d.noted.updateRoot markup) (d.updateRoot markup) := by
  have hbody : ∀ b : Bool, Tells (σ := σ) NoToken
      (if b then d.noted.replaceRegion .body (Document.sectionOf .body markup) else pure ())
      (if b then d.replaceRegion .body (Document.sectionOf .body markup) else pure ()) := by
    intro b
    cases b with
    | true => exact tells_replaceRegion d .body _
    | false => exact Logs.pure rfl
  unfold Document.updateRoot
  cases Html.section? .head markup with
  | none => exact hbody _
  | some s => exact Tells.bind_noToken (tells_replaceRegion d .head s) fun _ => hbody _

/-- The element `target` is updated without a token, and the outcome holds none. -/
theorem tells_updateElement (target markup : String) :
    Tells TokenReported (d.noted.updateElement target markup) (d.updateElement target markup) := by
  unfold Document.updateElement
  refine Tells.bind_reported (Tells.asks d target fun _ => rfl) fun present => ?_
  cases present with
  | false => exact Tells.pure_reported rfl rfl
  | true =>
    have hscripts : Tells (σ := σ) TokenReported
        (do d.noted.runScripts (Html.scriptsOf (Html.parseFragment markup)); pure Outcome.done)
        (do d.runScripts (Html.scriptsOf (Html.parseFragment markup)); pure Outcome.done) :=
      Tells.bind_reported (tells_runScripts d _) fun _ => Tells.pure_reported rfl rfl
    -- the two ways differ in the instruction, and neither has a token
    by_cases hid : Html.soleId? (Html.parseFragment markup) = some target
    · simp only [hid, if_true]
      exact Tells.bind_reported (Tells.discard_tell d rfl) fun _ => hscripts
    · simp only [hid, if_true, if_false]
      exact Tells.bind_reported (Tells.discard_tell d rfl) fun _ => hscripts

/-- The outcome of an update holds the token that the document is told, if `target` stands for the
    view state. -/
theorem tells_applyUpdate (reserved : ReservedIds) (target markup : String) :
    Tells TokenReported (d.noted.applyUpdate reserved target markup)
      (d.applyUpdate reserved target markup) := by
  unfold Document.applyUpdate
  cases reserved.classify target with
  | viewState =>
    -- the one change with a token: the document is told what the outcome holds
    refine Logs.bind (P := fun new _ => tokensOf new = [Text.trim markup])
      (Q := fun _ new r => new = [] ∧ r = .ok { applied := 1, viewState := Text.trim markup })
      ?_ (fun _ => Logs.pure ⟨rfl, rfl⟩) ?_ ?_
    · rw [Action.discard_eq_bind, Action.discard_eq_bind]
      refine Logs.bind (P := fun new _ => new = [.updateViewState (Text.trim markup)])
        (Q := fun _ new _ => new = []) (Tells.tell d _ fun _ => rfl) (fun _ => Logs.pure rfl) ?_ ?_
      · rintro _ _ _ _ rfl rfl
        rfl
      · rintro _ _ rfl
        rfl
    · rintro new _ _ _ hnew ⟨rfl, rfl⟩ _ ⟨⟩
      rw [List.append_nil, hnew]
      exact ⟨rfl, rfl⟩
    · intro new e _ o ho
      cases ho
  | head =>
    exact Tells.bind_reported (tells_replaceRegion d .head _) fun _ => Tells.pure_reported rfl rfl
  | body =>
    exact Tells.bind_reported (tells_replaceRegion d .body _) fun _ => Tells.pure_reported rfl rfl
  | root => exact Tells.bind_reported (tells_updateRoot d _) fun _ => Tells.pure_reported rfl rfl
  | element => exact tells_updateElement d target markup

/-- A change `i` of an element is told as it is, and ends as the document answers it. -/
theorem tells_tellElement {i : Instruction} (hi : i.token? = none) :
    Tells NoToken (d.noted.tellElement i) (d.tellElement i) := by
  intro s told
  refine ⟨[i], ?_, by simp [NoToken, tokensOf, hi]⟩
  have hnoted : d.noted.perform i (s, told) =
      ((d.perform i s).1, (d.perform i s).2, told ++ [i]) := rfl
  simp only [Document.tellElement, hnoted]
  rcases d.perform i s with ⟨e | _, t⟩
  · by_cases he : e.isRecoverable <;> simp [he]
  · rfl

/-- The outcome of the change `op` holds the last token that the document is told. -/
theorem tells_applyOne (reserved : ReservedIds) (op : Operation) :
    Tells TokenReported (d.noted.applyOne reserved op) (d.applyOne reserved op) := by
  cases op with
  | update target markup => exact tells_applyUpdate d reserved target markup
  | insert id position anchor markup =>
    refine Tells.bind_reported (tells_tellElement d rfl) fun missing => ?_
    cases missing with
    | none =>
      exact Tells.bind_reported (tells_runScripts d _) fun _ => Tells.pure_reported rfl rfl
    | some e =>
      -- a missing anchor ends the changes, so that there is no outcome to speak of
      refine Logs.throw ?_
      intro o ho
      cases ho
  | delete target =>
    refine Tells.bind_reported (Tells.tell d _ fun _ => rfl) fun removed => ?_
    cases removed <;> exact Tells.pure_reported rfl rfl
  | setAttribute target name value =>
    refine Tells.bind_reported (tells_tellElement d rfl) fun missing => ?_
    cases missing <;> exact Tells.pure_reported rfl rfl
  | eval code =>
    exact Tells.bind_reported (Tells.discard_tell d (i := .runScript code) rfl)
      fun _ => Tells.pure_reported rfl rfl
  | redirect url =>
    exact Tells.bind_reported (Tells.discard_tell d (i := .navigate url) rfl)
      fun _ => Tells.pure_reported rfl rfl
  | error name message => exact Tells.pure_reported rfl rfl

/-- Of the outcomes `first` and `others` in a row the later token counts, as it does among the
    instructions. -/
theorem tokenReported_append {first others : Outcome} {new later : List Instruction}
    (hfirst : TokenReported new (.ok first)) (hothers : TokenReported later (.ok others)) :
    TokenReported (new ++ later) (.ok (first ++ others)) := by
  obtain ⟨hs, hv⟩ := hfirst first rfl
  obtain ⟨hs', hv'⟩ := hothers others rfl
  rintro _ ⟨⟩
  show others.serverError.or first.serverError = none ∧ others.viewState.or first.viewState = _
  rw [hs, hs', hv, hv', tokensOf_append, List.getLast?_append]
  exact ⟨rfl, rfl⟩

/-- **Tokens are reported.** When the changes `ops` were applied without a failure, their outcome
    holds the last token that the document was told. -/
theorem tells_applyAll (reserved : ReservedIds) (ops : List Operation) :
    Tells TokenReported (d.noted.applyAll reserved ops) (d.applyAll reserved ops) := by
  induction ops with
  | nil => exact Tells.pure_reported rfl rfl
  | cons op rest ih =>
    -- what the first outcome says of its tokens is a premise of what is said of all of them
    refine Logs.bind (Q := fun first later r => ∀ new, TokenReported new (.ok first) →
      TokenReported (new ++ later) r) (tells_applyOne d reserved op) (fun first => ?_)
      (fun new _ later r hnew hlater => hlater new hnew) ?_
    · by_cases hleft : first.redirect.isSome
      · simp only [hleft, if_true]
        refine Logs.pure fun new hnew => ?_
        rwa [List.append_nil]
      · simp only [hleft]
        -- without a redirect the other changes are applied, and their outcome is joined to it
        refine Logs.bind (Q := fun others later r => later = [] ∧ r = .ok (first ++ others)) ih
          (fun others => Logs.pure ⟨rfl, rfl⟩) ?_ ?_
        · rintro later others _ _ hothers ⟨rfl, rfl⟩ new hnew
          rw [List.append_nil]
          exact tokenReported_append hnew hothers
        · intro later e _ new _ o ho
          cases ho
    · intro new e _ o ho
      cases ho

/-- Outcomes of changes hold no failure that the server reported; only `Document.apply` puts one
    there. -/
theorem serverError_applyAll (reserved : ReservedIds) {ops : List Operation} {s t : σ} {o : Outcome}
    (h : d.applyAll reserved ops s = (.ok o, t)) : o.serverError = none := by
  obtain ⟨new, -, hreported⟩ := tells_applyAll d reserved ops s []
  exact (hreported o (congrArg Prod.fst h)).1

end

end PagePatch
