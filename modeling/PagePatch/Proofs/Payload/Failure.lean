import PagePatch.Document.Recorder
import PagePatch.Proofs.Engine.Response
import PagePatch.Proofs.Payload.Regions
import PagePatch.Proofs.Xml.Passage

namespace PagePatch

/-!
# Reports of failures behind updates

A payload that ends in the report of a failure is not to change anything, whatever updates stand
before the report. As a document it does not. But markup that is not well formed keeps it from being
read as a document, and then its region updates are picked out of the raw text; the report is lost
with everything else.

* `FailureReport` — updates with any markup, and a report behind them;
* `Rejected` — nothing was changed, and one failure was told;
* `FailureReport.Rescued` — when the report is lost;
* `excluding_process` — nothing is changed exactly if the report is not lost.
-/

/-- Updates with any markup, and the report of a failure behind them, as what is written into a
    `payload`. -/
structure FailureReport where
  /-- The updates: ids and markup. -/
  updates : List (String × String)
  /-- The name of the failure. -/
  name : String
  /-- The ids stand in double quotes. -/
  ids : ∀ u ∈ updates, '"' ∉ u.1.toList
  /-- The markup of each has no quotes, and nothing but tags and text. -/
  markup : ∀ u ∈ updates, Xml.PlainMarkup u.2.toList
  /-- The name is text. -/
  unmarked : '<' ∉ name.toList

namespace FailureReport

/-- The updates of `f` as they are written, one node behind the other. -/
def updatesText (f : FailureReport) : List Char :=
  (f.updates.map fun u => (u.1.toList, u.2.toList)).flatMap fun u => updateText u.1 u.2

/-- The payload of `f`: a container with the updates, and then the report. -/
def payload (f : FailureReport) : String :=
  String.ofList ("<partial-response><changes>".toList ++
    (f.updatesText ++ ("</changes>".toList ++ Xml.reportText f.name.toList)))

/-- The payload of `f` cannot be read as a document. -/
def Malformed (f : FailureReport) : Prop :=
  ∃ fault, Xml.Element.parse f.payload = .error fault

/-- The payload of `f` cannot be read as a document, but an update of a region is found in its
    text. -/
def Rescued (f : FailureReport) (reserved : ReservedIds) : Prop :=
  f.Malformed ∧ HoldsRegion reserved f.payload

/-! ### The payload as a document -/

/-- An update is passed by the scanner: whatever its `markup` opens, its end tag is read in text or
    in a tag, and leads back to text. -/
theorem passes_updateText {id markup : List Char} (hid : '"' ∉ id)
    (hmarkup : Xml.PlainMarkup markup) :
    Xml.Passes (.text []) (updateText id markup) (.text []) := by
  obtain ⟨mode₁, hmode₁, hopen⟩ := Xml.passes_opened (c := 'u') (s := "pdate id=".toList) []
    (by decide) (by decide)
  obtain ⟨mode₂, hmode₂, hvalue⟩ := hmode₁.passes_value hid
  obtain ⟨mode₃, hmode₃, hinner⟩ := Xml.passes_plainMarkup hmarkup (Xml.Mode.isPlain_text []) nofun
  have hend := Xml.passes_endTag hmode₃ "update".toList (by decide)
  have hall := (((hopen.trans hvalue).trans hmode₂.passes_end).trans hinner).trans hend
  have htext : updateText id markup = '<' :: 'u' :: "pdate id=".toList ++ ('"' :: id ++ ['"']) ++
      ['>'] ++ markup ++ ('<' :: '/' :: "update".toList ++ ['>']) := by
    unfold updateText
    simp
  rwa [htext]

/-- So are all updates of the report `f`, one after the other. -/
theorem passes_updatesText (f : FailureReport) :
    Xml.Passes (.text []) f.updatesText (.text []) := by
  obtain ⟨updates, name, ids, markup, unmarked⟩ := f
  simp only [updatesText]
  induction updates with
  | nil => exact .refl _
  | cons u updates ih =>
    obtain ⟨hid, hids⟩ := List.forall_mem_cons.mp ids
    obtain ⟨hmarkup, hmarkups⟩ := List.forall_mem_cons.mp markup
    exact (passes_updateText hid hmarkup).trans (ih hids hmarkups)

/-- **A document ends in its report.** If the payload can be read as a document, then the report is
    the last element of its `root`. -/
theorem root_of_parse {f : FailureReport} {root : Xml.Element}
    (h : Xml.Element.parse f.payload = .ok root) :
    root.name = "partial-response" ∧
      ∃ elements e, root.elements = elements ++ [e] ∧ e.name = "error" := by
  have hroot : Xml.Passes (.text []) "<partial-response>".toList (.text []) :=
    Xml.passes_startTag (c := 'p') (s := "artial-response".toList) [] (by decide) (by decide)
  have hopen : Xml.Passes (.text []) "<changes>".toList (.text []) :=
    Xml.passes_startTag (c := 'c') (s := "hanges".toList) [] (by decide) (by decide)
  have hclose : Xml.Passes (.text []) "</changes>".toList (.text []) :=
    Xml.passes_endTag (Xml.Mode.isPlain_text []) "changes".toList (by decide)
  -- whatever the updates open, the report is read in text
  have hbefore := ((hroot.trans hopen).trans f.passes_updatesText).trans hclose
  have hscan : Xml.scan f.payload.toList = Xml.scanFrom (.text []) 0 0
      ("<partial-response>".toList ++ "<changes>".toList ++ f.updatesText ++ "</changes>".toList ++
        Xml.reportText f.name.toList) := by
    unfold payload
    rw [String.toList_ofList]
    simp only [List.append_assoc]
    rfl
  unfold Xml.Element.parse at h
  rw [hscan] at h
  obtain ⟨r, start, pos, hreport⟩ := hbefore _ _ _ _ _ h
  exact Xml.report_last f.unmarked hreport

end FailureReport

/-! ### Change-sets with a report -/

namespace ChangeSet

/-- The `changes` have a report once an operation `op` that is one was put in. -/
theorem error?_push (changes : ChangeSet) (op : Operation) :
    (changes.push op).error?.isSome = (changes.error?.isSome || op.errorReport?.isSome) := by
  unfold push
  split
  · rename_i hsecond
    rw [Bool.and_eq_true] at hsecond
    rw [hsecond.2, Bool.true_or]
  · unfold error?
    rw [List.findSome?_append, Option.isSome_or, List.findSome?_singleton]

/-- The change-set of `ops` has a report if one of the operations is a report. -/
theorem error?_ofList (ops : List Operation) :
    (ofList ops).error?.isSome = ops.any (·.errorReport?.isSome) := by
  have hfold : ∀ changes : ChangeSet, (ops.foldl push changes).error?.isSome =
      (changes.error?.isSome || ops.any (·.errorReport?.isSome)) := by
    -- what was put in before must be kept apart, or the step would not go through
    induction ops with
    | nil => exact fun changes => (Bool.or_false _).symm
    | cons op ops ih =>
      intro changes
      rw [List.foldl_cons, ih, error?_push, Bool.or_assoc, List.any_cons]
  exact hfold {}

/-- **A report counts wherever it stands.** A `root` whose last element is a report makes a
    change-set with a report, unless another operation lacks what it has to name. -/
theorem ofElement_of_report {root e : Xml.Element} {elements : List Xml.Element}
    (hroot : root.name = "partial-response") (helements : root.elements = elements ++ [e])
    (he : e.name = "error") :
    (∃ fault, ofElement root = .error (.operation fault)) ∨
      ∃ changes, ofElement root = .ok changes ∧ changes.error?.isSome = true := by
  have hreport : operationsOf e =
      .ok [.error (Text.trim (childContent e "error-name")) (childContent e "error-message")] := by
    simp only [operationsOf, he]
  unfold ofElement
  rw [if_neg (not_not_intro hroot), helements, List.mapM_append, List.mapM_cons,
    List.mapM_nil, hreport]
  cases elements.mapM operationsOf with
  | error fault => exact .inl ⟨fault, rfl⟩
  | ok before =>
    refine .inr ⟨_, rfl, ?_⟩
    show (ofList _).error?.isSome = true
    rw [error?_ofList]
    simp [Operation.errorReport?]

end ChangeSet

namespace FailureReport

/-! ### Reading the payload -/

/-- The payload of `f` is not blank, so it is given to the strategies. -/
theorem isBlankText_payload (f : FailureReport) : Text.isBlankText f.payload = false := by
  unfold Text.isBlankText payload
  rw [String.toList_ofList]
  rfl

/-- If the payload of `f` is read as the document `root`, parsing it fails or leads to changes with
    the report. -/
theorem parse_of_document {f : FailureReport} {root : Xml.Element} (reserved : ReservedIds)
    (h : Xml.Element.parse f.payload = .ok root) :
    (∃ failure, ({ reserved } : Parser).parse f.payload = .error failure) ∨
      ∃ parsed, ({ reserved } : Parser).parse f.payload = .ok parsed ∧
        parsed.changes.error?.isSome = true := by
  obtain ⟨hroot, elements, e, helements, he⟩ := root_of_parse h
  unfold Parser.parse
  rw [f.isBlankText_payload, if_neg Bool.false_ne_true]
  simp only [Strategy.standard, Parser.tryAll, Strategy.structured, ChangeSet.ofDocument, h]
  -- the fault of an operation ends the parsing, and the second strategy is not asked
  rcases ChangeSet.ofElement_of_report hroot helements he with
    ⟨fault, hfault⟩ | ⟨changes, hok, herror⟩
  · left
    simp only [hfault]
    cases fault <;> exact ⟨_, rfl⟩
  · right
    simp only [hok]
    exact ⟨_, rfl, herror⟩

/-- The payload of `f` that cannot be read as a document is searched for regions, and what is found
    in it is the result. -/
theorem parse_of_malformed {f : FailureReport} (reserved : ReservedIds) (h : f.Malformed)
    {changes : ChangeSet} (hregions : ChangeSet.ofRegions reserved f.payload = .ok changes) :
    ({ reserved } : Parser).parse f.payload = .ok ⟨changes, Strategy.regions.name⟩ := by
  obtain ⟨fault, hfault⟩ := h
  unfold Parser.parse
  rw [f.isBlankText_payload, if_neg Bool.false_ne_true]
  simp only [Strategy.standard, Parser.tryAll, Strategy.structured, Strategy.regions,
    ChangeSet.ofDocument, hfault, hregions]
  rfl

/-- If there is no region in it either, parsing the payload of `f` fails. -/
theorem parse_of_noRegion {f : FailureReport} (reserved : ReservedIds) (h : f.Malformed)
    (hregions : ChangeSet.ofRegions reserved f.payload = .error .noRegion) :
    ∃ failure, ({ reserved } : Parser).parse f.payload = .error failure := by
  obtain ⟨fault, hfault⟩ := h
  unfold Parser.parse
  rw [f.isBlankText_payload, if_neg Bool.false_ne_true]
  simp only [Strategy.standard, Parser.tryAll, Strategy.structured, Strategy.regions,
    ChangeSet.ofDocument, hfault, hregions]
  exact ⟨_, rfl⟩

end FailureReport

/-! ### What a lost report lets through -/

/-- Whether an instruction changes the document: code, scripts and the change of the address, by
    `navigate`, do not. -/
def Instruction.mutates : Instruction → Bool
  | runScript _ | loadScript _ | navigate _ => false
  | _ => true

/-- Among the instructions `new` that were told is one that changes the document. -/
def Mutates {α : Type} (new : List Instruction) (_ : Except Error α) : Prop :=
  ∃ i ∈ new, i.mutates = true

section

variable {σ : Type} (d : Document σ)

/-- What was told once stays told, whatever comes behind it: if `a` tells a change, then so does `a`
    followed by `f`. -/
theorem Tells.bind_mutates {α β : Type} {a : Action (σ × List Instruction) α} {b : Action σ α}
    {f : α → Action (σ × List Instruction) β} {g : α → Action σ β} (ha : Tells Mutates a b)
    (hf : ∀ x, Tells (fun _ _ => True) (f x) (g x)) : Tells Mutates (a >>= f) (b >>= g) := by
  refine ha.bind (Q := fun _ _ _ => True) hf ?_ fun _ _ h => h
  rintro new _ later _ ⟨i, hi, hmutates⟩ -
  exact ⟨i, List.mem_append_left later hi, hmutates⟩

/-- An exchange of `region` changes the document, even when it fails. -/
theorem mutates_replaceRegion (region : Html.Region) (s : Html.Section) :
    Tells Mutates (d.noted.replaceRegion region s) (d.replaceRegion region s) := by
  unfold Document.replaceRegion
  rw [Action.discard_eq_bind, Action.discard_eq_bind]
  refine Tells.bind_mutates (Tells.bind_mutates ?_ fun _ => Logs.pure trivial)
    fun _ => (tells_runScripts d _).imp fun _ _ _ => trivial
  exact Tells.tell d _ fun _ => ⟨_, List.mem_singleton_self _, rfl⟩

/-- So does an exchange of the whole page for `markup`, in which the body or the head is exchanged
    first. -/
theorem mutates_updateRoot (markup : String) :
    Tells Mutates (d.noted.updateRoot markup) (d.updateRoot markup) := by
  unfold Document.updateRoot
  cases Html.section? .head markup with
  | none => exact mutates_replaceRegion d .body _
  | some s =>
    refine Tells.bind_mutates (mutates_replaceRegion d .head s) fun _ => ?_
    split
    · exact (mutates_replaceRegion d .body _).imp fun _ _ _ => trivial
    · exact Logs.pure trivial

/-- **An update of a region changes the document,** and so do changes that begin with it, whether
    the `rest` of them is done to the end or breaks off. -/
theorem mutates_applyAll {reserved : ReservedIds} {id : String}
    (hregion : (reserved.classify id).isRegion = true) (markup : String) (rest : List Operation) :
    Tells Mutates (d.noted.applyAll reserved (.update id markup :: rest))
      (d.applyAll reserved (.update id markup :: rest)) := by
  have hfirst : Tells Mutates (d.noted.applyUpdate reserved id markup)
      (d.applyUpdate reserved id markup) := by
    unfold Document.applyUpdate
    cases hclass : reserved.classify id with
    | head => exact Tells.bind_mutates (mutates_replaceRegion d .head _) fun _ => Logs.pure trivial
    | body => exact Tells.bind_mutates (mutates_replaceRegion d .body _) fun _ => Logs.pure trivial
    | root => exact Tells.bind_mutates (mutates_updateRoot d _) fun _ => Logs.pure trivial
    | _ =>
      rw [hclass] at hregion
      cases hregion
  refine Tells.bind_mutates hfirst fun first => ?_
  by_cases hleft : first.redirect.isSome
  · simp only [hleft, if_true]
    exact Logs.pure trivial
  · simp only [hleft]
    exact ((tells_applyAll d reserved rest).imp fun _ _ _ => trivial).bind
      (Q := fun _ _ _ => True) (fun _ => Logs.pure trivial) (fun _ _ _ _ _ _ => trivial)
      fun _ _ _ => trivial

end

/-! ### Rejected responses -/

/-- What the processing `a` of a response that reports a failure is to leave: the document that
    there was, no token, and one notice, which tells of a failure. -/
structure Rejected {σ : Type} (a : Processed (σ × List Instruction)) : Prop where
  /-- The document was told nothing that changes it. -/
  untouched : ∀ i ∈ a.page.2, i.mutates = false
  /-- No token was taken from the response. -/
  no_token : a.summary.viewState = none
  /-- One failure was told, and nothing else. -/
  one_failure : ∃ e calls, a.raised = [(.error e, calls)]

section

variable {σ : Type} {p : Processor} {d : Document σ} {r : Response}

/-- A response on which the document was told a change `i` is not rejected. -/
theorem not_rejected_of_told {a : Processed (σ × List Instruction)} {i : Instruction}
    (hi : i ∈ a.page.2) (hmutates : i.mutates = true) : ¬ Rejected a :=
  fun h => Bool.false_ne_true ((h.untouched i hi).symm.trans hmutates)

/-- A response that comes to nothing is rejected: a verdict of any `kind` of failure leaves the page
    and tells this failure alone. -/
theorem rejected_processed {v : Verdict} {kind : ErrorKind} (hv : v.kind? = some kind)
    (listeners : Listeners) (ctx : ResponseContext) (r : Response) (page : σ) :
    Rejected (v.processed listeners ctx r (page, ([] : List Instruction))) := by
  cases v with
  | applied o => cases hv
  | _ => exact ⟨nofun, rfl, _, _, rfl⟩

/-- A response that brings the update of the region `id` first, and no report, is not rejected. -/
theorem not_rejected_of_region {parsed : ParsedPayload} {id markup : String} {rest : List Operation}
    (hstatus : 200 ≤ r.status ∧ r.status ≤ 299) (hparse : p.parser.parse r.body = .ok parsed)
    (hops : parsed.changes.operations = .update id markup :: rest)
    (hregion : (p.reserved.classify id).isRegion = true)
    (hreport : ∀ name message, .error name message ∉ parsed.changes.operations)
    (listeners : Listeners) (ctx : ResponseContext) (page : σ) :
    ¬ Rejected (p.process d.noted listeners ctx r (page, [])) := by
  obtain ⟨new, htold, i, hi, hmutates⟩ := mutates_applyAll d hregion markup rest page []
  have happly : d.noted.apply p.reserved parsed.changes (page, []) =
      d.noted.applyAll p.reserved (.update id markup :: rest) (page, []) := by
    simp only [Document.apply, (ChangeSet.error?_eq_none_iff _).mpr hreport, hops]
  rw [htold] at happly
  -- changes that break off later leave what they told before
  have hpage : (p.process d.noted listeners ctx r (page, [])).page.2 = new := by
    rcases hended : d.applyAll p.reserved (.update id markup :: rest) page with ⟨e | o, page'⟩
    · rw [hended] at happly
      rw [Processor.process_of_judges (.broken hstatus hparse hreport happly)]
      rfl
    · rw [hended] at happly
      rw [Processor.process_of_judges (.applied hstatus hparse hreport happly)]
      rfl
  exact not_rejected_of_told (hpage ▸ hi) hmutates

end

/-! ### When the report is lost -/

namespace FailureReport

variable {σ : Type}

/-- What is found in the text of the payload are the updates of `f` that have an id, in their
    order. -/
theorem ids_payload (f : FailureReport) (hsingle : ∀ u ∈ f.updates, '\'' ∉ u.1.toList) :
    (updateNodes f.payload.toList).map Prod.fst =
      (f.updates.map fun u => u.1.toList).filter (· ≠ []) := by
  have htail : updateNodes ("</changes>".toList ++ Xml.reportText f.name.toList) = [] := by
    unfold Xml.reportText
    show updateNodes (f.name.toList ++ "</error-name></error></partial-response>".toList) = []
    rw [updateNodes_untagged f.unmarked]
    rfl
  have hids := ids_updateNodes (f.updates.map fun u => (u.1.toList, u.2.toList))
    (by
      intro u hu
      obtain ⟨v, hv, rfl⟩ := List.mem_map.mp hu
      exact ⟨f.ids v hv, hsingle v hv⟩)
    (by
      intro u hu
      obtain ⟨v, hv, rfl⟩ := List.mem_map.mp hu
      exact ⟨(f.markup v hv).double, (f.markup v hv).single⟩)
    ("</changes>".toList ++ Xml.reportText f.name.toList)
  rw [htail, List.map_nil, List.append_nil, List.map_map] at hids
  unfold payload
  rw [String.toList_ofList]
  exact hids

/-- The report is lost exactly if the payload is `Malformed` and one of the updates is about a
    region. -/
theorem rescued_iff {f : FailureReport} (reserved : ReservedIds)
    (hsingle : ∀ u ∈ f.updates, '\'' ∉ u.1.toList) : f.Rescued reserved ↔
      f.Malformed ∧ ∃ u ∈ f.updates, u.1 ≠ "" ∧ (reserved.classify u.1).isRegion = true := by
  have hfound : ∀ id, id ∈ (updateNodes f.payload.toList).map Prod.fst ↔
      ∃ u ∈ f.updates, u.1 ≠ "" ∧ u.1.toList = id := by
    intro id
    rw [f.ids_payload hsingle, List.mem_filter, List.mem_map]
    constructor
    · rintro ⟨⟨u, hu, rfl⟩, hid⟩
      exact ⟨u, hu, by simpa using hid, rfl⟩
    · rintro ⟨u, hu, hid, rfl⟩
      exact ⟨⟨u, hu, rfl⟩, by simpa using hid⟩
  refine and_congr_right fun _ => ?_
  constructor
  · rintro ⟨node, hnode, hregion⟩
    obtain ⟨u, hu, hid, heq⟩ := (hfound node.1).mp (List.mem_map_of_mem hnode)
    rw [← heq, String.ofList_toList] at hregion
    exact ⟨u, hu, hid, hregion⟩
  · rintro ⟨u, hu, hid, hregion⟩
    obtain ⟨node, hnode, heq⟩ := List.mem_map.mp ((hfound u.1.toList).mpr ⟨u, hu, hid, rfl⟩)
    exact ⟨node, hnode, by rwa [heq, String.ofList_toList]⟩

/-- With its report the response comes to nothing: whatever the verdict `v` is, it is a failure, and
    the `page` stays as it was. -/
theorem judges_of_kept {f : FailureReport} {reserved : ReservedIds} (hkept : ¬ f.Rescued reserved)
    {r : Response} (hstatus : 200 ≤ r.status ∧ r.status ≤ 299) (hbody : r.body = f.payload)
    (d : Document σ) (page : σ) : ∃ v kind, v.kind? = some kind ∧
      Processor.Judges { parser := { reserved }, reserved } d r page v page := by
  -- the first strategy keeps the report, and the second one finds no region
  cases hdocument : Xml.Element.parse f.payload with
  | ok root =>
    rcases parse_of_document reserved hdocument with ⟨failure, hparse⟩ | ⟨parsed, hparse, hreport⟩
    · exact ⟨.unreadable failure, _, rfl, .unreadable hstatus (hbody ▸ hparse)⟩
    · obtain ⟨⟨name, message⟩, herror⟩ := Option.isSome_iff_exists.mp hreport
      obtain ⟨before, after, hops, hbefore⟩ :=
        (ChangeSet.error?_eq_some_iff _ name message).mp herror
      exact ⟨.reported name message, _, rfl, .reported hstatus (hbody ▸ hparse) hops hbefore⟩
  | error fault =>
    have hregions := ChangeSet.ofRegions_of_none
      fun hfound => hkept ⟨⟨fault, hdocument⟩, hfound⟩
    obtain ⟨failure, hparse⟩ := parse_of_noRegion reserved ⟨fault, hdocument⟩ hregions
    exact ⟨.unreadable failure, _, rfl, .unreadable hstatus (hbody ▸ hparse)⟩

/-- What becomes of the payload `f` with a report, when the response that brings it is processed. -/
structure Excluding (f : FailureReport) (reserved : ReservedIds) (page : σ)
    (a : Processed (σ × List Instruction)) : Prop where
  /-- It is rejected exactly if the report is not lost. -/
  rejected_iff : Rejected a ↔ ¬ f.Rescued reserved
  /-- Then the document is told nothing at all. -/
  inert : Rejected a → a.page = (page, [])
  /-- The report is lost exactly if the payload cannot be read as a document and one of the updates
      is about a region; an id with an apostrophe may end early in the text. -/
  lost_iff : (∀ u ∈ f.updates, '\'' ∉ u.1.toList) → (f.Rescued reserved ↔
    f.Malformed ∧ ∃ u ∈ f.updates, u.1 ≠ "" ∧ (reserved.classify u.1).isRegion = true)

end FailureReport

open FailureReport

/-- **A report excludes everything else,** whatever ids and markup the updates of `f` before it
    have, unless the payload cannot be read as a document and one of the updates is about a
    region. -/
theorem excluding_process {σ : Type} (f : FailureReport) (reserved : ReservedIds) (d : Document σ)
    (listeners : Listeners) (ctx : ResponseContext) (r : Response) (page : σ)
    (hstatus : 200 ≤ r.status ∧ r.status ≤ 299) (hbody : r.body = f.payload) :
    f.Excluding reserved page (Processor.process { parser := { reserved }, reserved } d.noted
      listeners ctx r (page, [])) := by
  by_cases hrescued : f.Rescued reserved
  · obtain ⟨changes, id, markup, rest, hregions, hops, hregion, hreport⟩ :=
      ChangeSet.ofRegions_of_some hrescued.2
    have hparse := parse_of_malformed reserved hrescued.1 hregions
    have hlost := not_rejected_of_region (p := { parser := { reserved }, reserved }) (d := d)
      hstatus (hbody ▸ hparse) hops hregion hreport listeners ctx page
    exact {
      rejected_iff := iff_of_false hlost (not_not_intro hrescued)
      inert := fun hrejected => absurd hrejected hlost
      lost_iff := rescued_iff reserved }
  · obtain ⟨v, kind, hkind, hjudges⟩ := judges_of_kept hrescued hstatus hbody d.noted (page, [])
    rw [Processor.process_of_judges hjudges]
    exact {
      rejected_iff := iff_of_true (rejected_processed hkind listeners ctx r page) hrescued
      inert := fun _ => rfl
      lost_iff := rescued_iff reserved }

/-- The report of a failure behind an update of the body with `markup`. -/
def FailureReport.ofBody (markup : String) (h : Xml.PlainMarkup markup.toList) : FailureReport where
  updates := [("javax.faces.ViewBody", markup)]
  name := "n"
  ids := List.forall_mem_singleton.mpr (show '"' ∉ "javax.faces.ViewBody".toList by decide)
  markup := List.forall_mem_singleton.mpr h
  unmarked := by decide

/-- Line breaks that are closed, as in `<br></br>`, leave a document, so that nothing is changed. -/
theorem excluding_closed :
    let f := FailureReport.ofBody "<br></br>" (by decide +kernel)
    let r : Response := { status := 200, body := f.payload }
    let a := Processor.process {} Recorder.document.noted {} ⟨"a", ⟨1⟩, {}⟩ r ({}, [])
    (200 ≤ r.status ∧ r.status ≤ 299) ∧ r.body = f.payload ∧
      (Xml.Element.parse f.payload).isOk = true ∧ f.Excluding {} {} a :=
  ⟨by decide, rfl, by decide +kernel,
    excluding_process _ {} Recorder.document {} _ _ {} (by decide) rfl⟩

/-- A line break that is not closed, a bare `<br>`, leaves none: the body is exchanged, and a
    success is told. -/
theorem body_exchanged_despite_report :
    let f := FailureReport.ofBody "<br>" (by decide +kernel)
    let r : Response := { status := 200, body := f.payload }
    let a := Processor.process {} Recorder.document.noted {} ⟨"a", ⟨1⟩, {}⟩ r ({}, [])
    (a.page.2 = [.replaceRegion .body [] "<br>"] ∧
      a.raised.map (·.1) = [.event (Processor.success ⟨"a", ⟨1⟩, {}⟩ r)]) ∧ ¬ Rejected a := by
  intro f r a
  have hlost : a.page.2 = [.replaceRegion .body [] "<br>"] ∧
      a.raised.map (·.1) = [.event (Processor.success ⟨"a", ⟨1⟩, {}⟩ r)] := by
    subst a r f
    decide +kernel
  refine ⟨hlost, not_rejected_of_told (i := .replaceRegion .body [] "<br>") ?_ rfl⟩
  rw [hlost.1]
  exact List.mem_singleton_self _

end PagePatch
