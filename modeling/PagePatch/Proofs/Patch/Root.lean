import PagePatch.Document.Recorder
import PagePatch.Proofs.Document.Told
import PagePatch.Proofs.Html.Section

namespace PagePatch

/-!
# Updates of the whole page

An update of the whole page exchanges the head and then the body, and runs the scripts of each right
after it is in the document. The two are cut out of the same markup: only when they are apart there
does each script run once.

* `Executes` — a document is told a plan, up to the first failure;
* `Html.Section.plan` — what a document is told of a section;
* `executes_applyUpdate` — what it is told of an update of the whole page;
* `Sectioned`, `sectioned_applyUpdate` — what the two sections of such an update have to do with
  each other;
* `script_runs_twice` — a head without an end tag goes on through the body.
-/

variable {σ α β : Type}

/-! ### Plans -/

/-- The instructions `new` are `plan` up to the first failure; without a failure they are all of
    it. -/
def Executes (plan new : List Instruction) (r : Except Error α) : Prop :=
  new <+: plan ∧ ∀ x, r = .ok x → new = plan

/-- One `plan` and then `plan'`, if the first one does not fail. -/
theorem Tells.bind_executes (plan plan' : List Instruction) {a : Action (σ × List Instruction) α}
    {b : Action σ α} {f : α → Action (σ × List Instruction) β} {g : α → Action σ β}
    (ha : Tells (Executes plan) a b) (hf : ∀ x, Tells (Executes plan') (f x) (g x)) :
    Tells (Executes (plan ++ plan')) (a >>= f) (b >>= g) := by
  refine ha.bind (Q := fun _ => Executes plan') hf ?_ ?_
  · rintro new x later r ⟨-, hnew⟩ ⟨hlater, hall⟩
    rw [hnew x rfl]
    exact ⟨(List.prefix_append_right_inj plan).mpr hlater,
      fun y hy => congrArg (plan ++ ·) (hall y hy)⟩
  · rintro new e ⟨hnew, -⟩
    exact ⟨hnew.trans (List.prefix_append plan plan'), nofun⟩

/-- An answer `x` without an instruction executes the plan of none. -/
theorem Tells.pure_executes (x : α) :
    Tells (σ := σ) (Executes []) (pure x) (pure x) :=
  Logs.pure ⟨List.nil_prefix, fun _ _ => rfl⟩

/-- One instruction `i`, whatever its answer is. -/
theorem Tells.discard_executes (d : Document σ) (i : Instruction) :
    Tells (Executes [i]) (discard (d.noted.tell i)) (discard (d.tell i)) := by
  rw [Action.discard_eq_bind, Action.discard_eq_bind]
  exact Tells.bind_executes [i] []
    (Tells.tell d i fun _ => ⟨List.prefix_refl _, fun _ _ => rfl⟩) fun _ => Tells.pure_executes ()

/-! ### What a document is told of a section -/

/-- The instruction to run a script: `runScript` with its code, or `loadScript` with its address. -/
def Html.Script.instruction : Html.Script → Instruction
  | inline code => .runScript code
  | external address => .loadScript address

/-- The instructions to run the scripts in `markup`, in the order in which they stand there. -/
def Html.scriptPlan (markup : String) : List Instruction :=
  (scriptsOf (parseFragment markup)).map Script.instruction

/-- What a document is told of the section `s`: to put it in the place of `region`, and then to run
    its scripts. -/
def Html.Section.plan (region : Html.Region) (s : Html.Section) : List Instruction :=
  .replaceRegion region s.attributes s.inner :: Html.scriptPlan s.inner

section

variable (d : Document σ)

/-- The `scripts` are run in order, one instruction for each. -/
theorem executes_runScripts (scripts : List Html.Script) :
    Tells (Executes (scripts.map Html.Script.instruction)) (d.noted.runScripts scripts)
      (d.runScripts scripts) := by
  induction scripts with
  | nil => exact Tells.pure_executes ()
  | cons script rest ih =>
    refine Tells.bind_executes [script.instruction] _ ?_ fun _ => ih
    cases script <;> exact Tells.discard_executes d _

/-- A `region` is exchanged, and then the scripts of its new content are run. -/
theorem executes_replaceRegion (region : Html.Region) (s : Html.Section) :
    Tells (Executes (s.plan region)) (d.noted.replaceRegion region s) (d.replaceRegion region s) :=
  Tells.bind_executes [.replaceRegion region s.attributes s.inner] _
    (Tells.discard_executes d _) fun _ => executes_runScripts d _

/-- The `head` is exchanged and then the `body`, if the markup has both. -/
theorem executes_updateRoot {markup : String} {head body : Html.Section}
    (hhead : Html.section? .head markup = some head)
    (hbody : Html.section? .body markup = some body) :
    Tells (Executes (head.plan .head ++ body.plan .body)) (d.noted.updateRoot markup)
      (d.updateRoot markup) := by
  unfold Document.updateRoot Document.sectionOf
  rw [hhead, hbody]
  exact Tells.bind_executes _ _ (executes_replaceRegion d .head head) fun _ =>
    executes_replaceRegion d .body body

/-- So it is by an update of the root, whatever id `target` stands for the root. -/
theorem executes_applyUpdate {reserved : ReservedIds} {target markup : String}
    {head body : Html.Section} (hroot : reserved.classify target = .root)
    (hhead : Html.section? .head markup = some head)
    (hbody : Html.section? .body markup = some body) :
    Tells (Executes (head.plan .head ++ body.plan .body))
      (d.noted.applyUpdate reserved target markup) (d.applyUpdate reserved target markup) := by
  unfold Document.applyUpdate
  rw [hroot, ← List.append_nil (head.plan .head ++ body.plan .body)]
  exact Tells.bind_executes _ [] (executes_updateRoot d hhead hbody) fun _ =>
    Tells.pure_executes _

end

/-! ### The two sections -/

/-- The instructions in the plan of the section `s` that run code are those of its scripts, and no
    other ones. -/
theorem runsCode_plan (region : Html.Region) (s : Html.Section) :
    (s.plan region).filter Instruction.runsCode = Html.scriptPlan s.inner := by
  have hscripts : ∀ i ∈ Html.scriptPlan s.inner, i.runsCode = true := by
    intro i hi
    obtain ⟨script, -, rfl⟩ := List.mem_map.mp hi
    cases script <;> rfl
  rw [Html.Section.plan, List.filter_cons_of_neg Bool.false_ne_true]
  exact List.filter_eq_self.mpr hscripts

/-- What an update of the whole page with `markup` makes of a head and a body in it. -/
structure Sectioned (d : Document σ) (reserved : ReservedIds) (target markup : String)
    (head body : Html.Section) : Prop where
  /-- The content of the head is the part of the markup that `Html.partOf` cuts out for it. -/
  head_inner : head.inner.toList = Html.partOf .head markup.toList
  /-- So is the content of the body. -/
  body_inner : body.inner.toList = Html.partOf .body markup.toList
  /-- The document is told of the head and then of the body, up to the first failure. -/
  told : Tells (Executes (head.plan .head ++ body.plan .body))
    (d.noted.applyUpdate reserved target markup) (d.applyUpdate reserved target markup)
  /-- The code that it runs is that of the scripts in the one part and then of those in the
      other. -/
  runs : ∀ page told, ∃ new,
    (d.noted.applyUpdate reserved target markup (page, told)).2.2 = told ++ new ∧
    new.filter Instruction.runsCode <+: Html.scriptPlan head.inner ++ Html.scriptPlan body.inner
  /-- No character of the markup is in both parts exactly if they are apart. -/
  disjoint_iff : (∀ n, ¬ (Html.Inside .head markup.toList n ∧ Html.Inside .body markup.toList n)) ↔
    Html.Apart .head .body markup.toList
  /-- Then one of them is behind the other, so that no text is read twice. -/
  parted : Html.Apart .head .body markup.toList →
    Html.Parted markup.toList head.inner.toList body.inner.toList ∨
      Html.Parted markup.toList body.inner.toList head.inner.toList

/-- **The head and the body.** An update of the whole page runs the scripts of `head` and then those
    of `body`. No part of the markup belongs to both exactly if one region is closed for good before
    the content of the other one begins, or one is empty. -/
theorem sectioned_applyUpdate (d : Document σ) {reserved : ReservedIds} {target markup : String}
    {head body : Html.Section} (hroot : reserved.classify target = .root)
    (hhead : Html.section? .head markup = some head)
    (hbody : Html.section? .body markup = some body) :
    Sectioned d reserved target markup head body := by
  have htold := executes_applyUpdate d hroot hhead hbody
  have hhead_inner := Html.section?_inner hhead
  have hbody_inner := Html.section?_inner hbody
  refine {
    head_inner := hhead_inner
    body_inner := hbody_inner
    told := htold
    runs := fun page told => ?_
    disjoint_iff := Html.apart_iff .head .body markup.toList
    parted := fun hapart => ?_ }
  · obtain ⟨new, heq, hplan, -⟩ := htold page told
    refine ⟨new, by rw [heq], ?_⟩
    have hfilter := hplan.filter Instruction.runsCode
    rwa [List.filter_append, runsCode_plan, runsCode_plan] at hfilter
  · rw [hhead_inner, hbody_inner]
    exact Html.parted_of_apart hapart

/-- A page whose head and body are `Apart`, as the head has its end tag. -/
def tidyPage : String :=
  "<html><head><title>t</title></head><body><script>init()</script></body></html>"

/-- The page `tidyPage` without the end tag of its head, which may be left out. -/
def openHeadPage : String :=
  "<html><head><title>t</title><body><script>init()</script></body></html>"

/-- On `tidyPage`, with the end tag of the head, the two sections are apart, and each script runs
    once. -/
theorem sectioned_tidyPage :
    Html.Apart .head .body tidyPage.toList ∧
      Sectioned Recorder.document {} "javax.faces.ViewRoot" tidyPage
        { inner := "<title>t</title>" } { inner := "<script>init()</script>" } := by
  refine ⟨.inr (.inr (.inl ((Html.stopOf_le_iff ?_).mp ?_))),
    sectioned_applyUpdate Recorder.document ?_ ?_ ?_⟩ <;> decide +kernel

/-- On `openHeadPage` the head goes on through the body, whose script is run for both. -/
theorem script_runs_twice :
    (Html.section? .head openHeadPage).isSome ∧ (Html.section? .body openHeadPage).isSome ∧
      (∃ n, Html.Inside .head openHeadPage.toList n ∧ Html.Inside .body openHeadPage.toList n) ∧
      (Recorder.document.applyUpdate {} "javax.faces.ViewRoot" openHeadPage {}).2.told.count
        (.runScript "init()") = 2 := by
  refine ⟨?_, ?_, ⟨40, ⟨?_, ?_⟩, ?_, ?_⟩, ?_⟩ <;> decide +kernel

end PagePatch
