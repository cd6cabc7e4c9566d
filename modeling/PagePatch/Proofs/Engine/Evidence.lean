import PagePatch.Page.CommandHost
import PagePatch.Proofs.Engine.Response
import PagePatch.Proofs.Payload.Regions
import PagePatch.Proofs.Payload.Sense

namespace PagePatch

/-!
# What a failure tells of the body

A failure tells whether the body of the response was read as a document. But where its changes fail
the body is marked as such whichever strategy read it, so a failure behind the search for regions
tells something that is not true. No other failure does.

* `Strategy.Accepts` — a strategy reads a payload, and `readBy_of_parse` — which of the two usual
  ones reads it;
* `Processed.failures` — the failures that a response raised;
* `ErrorEvent.Truthful` — what a failure tells of the body is true;
* `Evidence`, `evidence_process` — what the failures of a response tell, and when it is true.
-/

/-! ### Which strategy reads a payload -/

/-- The strategy `s` reads the payload `raw` without a fault. -/
def Strategy.Accepts (s : Strategy) (reserved : ReservedIds) (raw : String) : Prop :=
  ∃ changes, s.read reserved raw = .ok changes

instance (s : Strategy) (reserved : ReservedIds) (raw : String) :
    Decidable (s.Accepts reserved raw) :=
  match h : s.read reserved raw with
  | .ok changes => .isTrue ⟨changes, h⟩
  | .error _ => .isFalse fun ⟨_, hchanges⟩ => nomatch h.symm.trans hchanges

/-- What `f` says about a failure makes no success of `x`, and the other way round. -/
theorem mapError_eq_ok_iff {ε ε' α : Type} {f : ε → ε'} {x : Except ε α} {a : α} :
    x.mapError f = .ok a ↔ x = .ok a := by
  cases x <;> simp [Except.mapError]

/-- A payload is accepted as a document exactly if it is one that has changes, as
    `ChangeSet.ofDocument` reads it. -/
theorem Strategy.accepts_structured_iff {reserved : ReservedIds} {raw : String} :
    structured.Accepts reserved raw ↔ ∃ changes, ChangeSet.ofDocument raw = .ok changes :=
  exists_congr fun _ => mapError_eq_ok_iff

/-- The regions that `ofRegions` picks out of a text report no failure of the server: they are
    updates only. -/
theorem ChangeSet.no_report_ofRegions {reserved : ReservedIds} {raw : String} {changes : ChangeSet}
    (h : ofRegions reserved raw = .ok changes) :
    ∀ name message, .error name message ∉ changes.operations := by
  intro name message hmem
  unfold ofRegions at h
  simp only at h
  split at h
  · cases h
  · cases h
    obtain ⟨node, -, hnode⟩ := List.mem_map.mp hmem
    cases hnode

/-- The first of the `strategies` that accepts the payload `raw` is the one that reads it. -/
theorem Parser.exists_of_tryAll {reserved : ReservedIds} {raw : String} {parsed : ParsedPayload}
    {strategies : List Strategy} {attempts : List (String × Error)}
    (h : tryAll reserved raw attempts strategies = .ok parsed) : ∃ before s after changes,
      strategies = before ++ s :: after ∧ (∀ t ∈ before, ¬ t.Accepts reserved raw) ∧
        s.read reserved raw = .ok changes ∧ parsed = ⟨changes, s.name⟩ := by
  induction strategies generalizing attempts with
  | nil => cases h
  | cons s rest ih =>
    rw [tryAll] at h
    cases hread : s.read reserved raw with
    | ok changes =>
      rw [hread] at h
      cases h
      exact ⟨[], s, rest, changes, rfl, List.forall_mem_nil _, hread, rfl⟩
    | error e =>
      simp only [hread] at h
      split at h
      · cases h
      · obtain ⟨before, t, after, changes, rfl, hbefore, ht, rfl⟩ := ih h
        refine ⟨s :: before, t, after, changes, rfl, ?_, ht, rfl⟩
        refine List.forall_mem_cons.mpr ⟨?_, hbefore⟩
        rintro ⟨changes', hchanges⟩
        cases hread.symm.trans hchanges

/-- The strategies of the parser `p` are tried in their order, and the first that accepts the
    payload reads it. -/
theorem Parser.exists_of_parse {p : Parser} {raw : String} {parsed : ParsedPayload}
    (h : p.parse raw = .ok parsed) : ∃ before s after changes,
      p.strategies = before ++ s :: after ∧ (∀ t ∈ before, ¬ t.Accepts p.reserved raw) ∧
        s.read p.reserved raw = .ok changes ∧ parsed = ⟨changes, s.name⟩ := by
  unfold parse at h
  split at h
  · cases h
  · split at h
    · rename_i hfound
      cases h
      exact exists_of_tryAll hfound
    · cases h

/-- How the payload `raw` was read by the two usual strategies. -/
inductive ReadBy (reserved : ReservedIds) (raw : String) : ParsedPayload → Prop
  /-- As a document, which is tried first. -/
  | document {changes : ChangeSet} (h : Strategy.structured.Accepts reserved raw) :
    ReadBy reserved raw ⟨changes, Strategy.structured.name⟩
  /-- By its regions, since it is no document. They report no failure of the server. -/
  | regions {changes : ChangeSet} (h : ¬ Strategy.structured.Accepts reserved raw)
    (hops : ∀ name message, .error name message ∉ changes.operations) :
    ReadBy reserved raw ⟨changes, Strategy.regions.name⟩

/-- **Which strategy reads a payload.** It is read as a document if `Strategy.structured` accepts
    it, and by its regions otherwise. -/
theorem readBy_of_parse {reserved : ReservedIds} {raw : String} {parsed : ParsedPayload}
    (h : ({ reserved } : Parser).parse raw = .ok parsed) : ReadBy reserved raw parsed := by
  obtain ⟨before, s, after, changes, hstrategies, hbefore, hread, rfl⟩ := Parser.exists_of_parse h
  have hstandard : [Strategy.structured, .regions] = before ++ s :: after := hstrategies
  -- of two strategies the first one read it, or the second one after the first one failed
  cases before with
  | nil =>
    obtain ⟨rfl, -⟩ := List.cons.inj hstandard
    exact .document ⟨changes, hread⟩
  | cons t before =>
    obtain ⟨rfl, hrest⟩ := List.cons.inj hstandard
    cases before with
    | nil =>
      obtain ⟨rfl, -⟩ := List.cons.inj hrest
      exact .regions (hbefore _ List.mem_cons_self)
        (ChangeSet.no_report_ofRegions (mapError_eq_ok_iff.mp hread))
    | cons u before =>
      have hlength := congrArg List.length hrest
      simp at hlength

/-- A payload `raw` that is accepted as a document is read as one by the parser. -/
theorem Strategy.Accepts.parse {reserved : ReservedIds} {raw : String}
    (h : Strategy.structured.Accepts reserved raw) : ∃ changes,
      ({ reserved } : Parser).parse raw = .ok ⟨changes, Strategy.structured.name⟩ := by
  obtain ⟨changes, hdocument⟩ := Strategy.accepts_structured_iff.mp h
  exact ⟨changes, parse_of_ofDocument hdocument reserved [.regions]⟩

/-! ### What failures tell of the body -/

/-- The failures that the processing of a response raised, in order; the successes in `raised` are
    left out. -/
def Processed.failures {σ : Type} (a : Processed σ) : List ErrorEvent :=
  a.raised.filterMap fun x =>
    match x.1 with
    | .error e => some e
    | .event _ => none

/-- What the failure `e` tells of the `body` of a response is true: it has the body as a document if
    and only if it is accepted as one. -/
structure ErrorEvent.Truthful (e : ErrorEvent) (reserved : ReservedIds) (body : String) : Prop where
  /-- It has the body as a document exactly if the body can be read as one. -/
  accepted_iff : (∃ xml, e.responseXml = some xml) ↔ Strategy.structured.Accepts reserved body
  /-- What it has is the body itself, and no other text. -/
  body_eq : ∀ xml, e.responseXml = some xml → xml = body

/-- The changes of the response `r` fail, and they were read from its regions, so its body is no
    document. -/
def Unfit {σ : Type} (p : Processor) (d : Document σ) (r : Response) (page : σ) : Prop :=
  ∃ changes e page', p.parser.parse r.body = .ok ⟨changes, Strategy.regions.name⟩ ∧
    d.apply p.reserved changes page = (.error e, page')

/-- What the failures of the response `r` tell of its body, when the processing has left `a`. -/
structure Evidence {σ : Type} (p : Processor) (d : Document σ) (r : Response) (page : σ)
    (a : Processed σ) : Prop where
  /-- They have the body as a document if any strategy read it, and nothing otherwise. -/
  marked : ∀ e ∈ a.failures,
    (e.responseXml = some r.body ∧ ∃ parsed, p.parser.parse r.body = .ok parsed) ∨
      e.responseXml = none ∧ ∃ f, p.parser.parse r.body = .error f
  /-- That is true exactly if it is not the changes of its regions that fail (`Unfit`). -/
  truthful_iff : (∀ e ∈ a.failures, e.Truthful p.parser.reserved r.body) ↔ ¬ Unfit p d r page
  /-- If it is, there is one failure, and it has the body as a document that it is not. -/
  unfit : Unfit p d r page → ∃ e, a.failures = [e] ∧ e.kind = .clientError ∧
    e.responseXml = some r.body ∧ ¬ Strategy.structured.Accepts p.parser.reserved r.body

/-- The failure that the verdict `v` tells of, if its notice is one; a success leaves none. -/
theorem Verdict.failures_processed {σ : Type} (v : Verdict) (listeners : Listeners)
    (ctx : ResponseContext) (r : Response) (page : σ) :
    (v.processed listeners ctx r page).failures =
      match v.notice ctx r with
      | .error e => [e]
      | .event _ => [] := by
  cases v <;> rfl

/-- Where no changes of regions fail, what the `failures` tell has to be true. -/
theorem Evidence.of_fit {σ : Type} {p : Processor} {d : Document σ} {r : Response} {page : σ}
    {a : Processed σ} (hfit : ¬ Unfit p d r page)
    (hmarked : ∀ e ∈ a.failures,
      (e.responseXml = some r.body ∧ ∃ parsed, p.parser.parse r.body = .ok parsed) ∨
        e.responseXml = none ∧ ∃ f, p.parser.parse r.body = .error f)
    (htrue : ∀ e ∈ a.failures, e.Truthful p.parser.reserved r.body) : Evidence p d r page a where
  marked := hmarked
  truthful_iff := iff_of_true htrue hfit
  unfit hunfit := absurd hunfit hfit

section

variable {σ : Type} {keys reserved : ReservedIds} {d : Document σ} {r : Response} {page : σ}

open Processor

/-- A body that is accepted as a document is not read by its regions, so it is not `Unfit`. -/
theorem not_unfit_of_accepts (h : Strategy.structured.Accepts keys r.body) :
    ¬ Unfit { parser := { reserved := keys }, reserved } d r page := by
  rintro ⟨changes, e, page', hparse, -⟩
  obtain ⟨changes', hdocument⟩ := h.parse
  have hsame := congrArg ParsedPayload.strategy (Except.ok.inj (hdocument.symm.trans hparse))
  have hnames : Strategy.structured.name ≠ Strategy.regions.name := by decide
  exact hnames hsame

/-- A failure `e` behind the reading of a document, which has the body as one. -/
theorem Evidence.of_accepts (h : Strategy.structured.Accepts keys r.body) {a : Processed σ}
    {e : ErrorEvent} (hfailures : a.failures = [e]) (hxml : e.responseXml = some r.body) :
    Evidence { parser := { reserved := keys }, reserved } d r page a := by
  obtain ⟨changes, hparse⟩ := h.parse
  refine .of_fit (not_unfit_of_accepts h) ?_ ?_
  · rw [hfailures, List.forall_mem_singleton]
    exact .inl ⟨hxml, _, hparse⟩
  · rw [hfailures, List.forall_mem_singleton]
    exact ⟨iff_of_true ⟨_, hxml⟩ h, fun xml hsome => (Option.some.inj (hxml.symm.trans hsome)).symm⟩

/-- A failure `e` to read a body at all, which has nothing of it. -/
theorem Evidence.of_unread {f : ParseFailure}
    (h : ({ reserved := keys } : Parser).parse r.body = .error f) {a : Processed σ} {e : ErrorEvent}
    (hfailures : a.failures = [e]) (hxml : e.responseXml = none) :
    Evidence { parser := { reserved := keys }, reserved } d r page a := by
  have hnot : ¬ Strategy.structured.Accepts keys r.body := by
    intro haccepts
    obtain ⟨changes, hdocument⟩ := haccepts.parse
    cases hdocument.symm.trans h
  have hnone : ∀ xml, e.responseXml ≠ some xml := by
    intro xml hsome
    cases hxml.symm.trans hsome
  refine .of_fit ?_ ?_ ?_
  · rintro ⟨changes, e, page', hregions, -⟩
    cases h.symm.trans hregions
  · rw [hfailures, List.forall_mem_singleton]
    exact .inr ⟨hxml, f, h⟩
  · rw [hfailures, List.forall_mem_singleton]
    refine ⟨iff_of_false ?_ hnot, fun xml hsome => absurd hsome (hnone xml)⟩
    exact not_exists.mpr hnone

/-- A failure `e` to apply the changes of regions, which has the body as the document that it is
    not. -/
theorem Evidence.of_unfit {p : Processor} (hunfit : Unfit p d r page)
    (hnot : ¬ Strategy.structured.Accepts p.parser.reserved r.body)
    {a : Processed σ} {e : ErrorEvent} (hfailures : a.failures = [e])
    (hkind : e.kind = .clientError) (hxml : e.responseXml = some r.body) :
    Evidence p d r page a where
  marked := by
    obtain ⟨changes, -, -, hparse, -⟩ := hunfit
    rw [hfailures, List.forall_mem_singleton]
    exact .inl ⟨hxml, _, hparse⟩
  truthful_iff := by
    refine iff_of_false (fun htrue => ?_) (not_not_intro hunfit)
    rw [hfailures, List.forall_mem_singleton] at htrue
    exact hnot (htrue.accepted_iff.mp ⟨r.body, hxml⟩)
  unfit _ := ⟨e, hfailures, hkind, hxml, hnot⟩

/-- **What the failures of a response tell of its body**: the truth, unless it was read by its
    regions and the changes of these fail. The reserved ids of the parser, `keys`, and of the
    applier may differ here. -/
theorem evidence_process (hstatus : 200 ≤ r.status ∧ r.status ≤ 299) (listeners : Listeners)
    (ctx : ResponseContext) : Evidence { parser := { reserved := keys }, reserved } d r page
      (process { parser := { reserved := keys }, reserved } d listeners ctx r page) := by
  obtain ⟨v, page', hv⟩ := judges_total { parser := { reserved := keys }, reserved } d r page
  rw [process_of_judges hv]
  have hfailures := v.failures_processed listeners ctx r page'
  cases hv with
  | refused hnot => exact absurd hstatus hnot
  | unreadable _ hparse => exact .of_unread hparse hfailures rfl
  | reported _ hparse hops _ =>
    -- regions report no failure of the server
    cases readBy_of_parse hparse with
    | document haccepts => exact .of_accepts haccepts hfailures rfl
    | regions _ hnone =>
      exact absurd (hops ▸ List.mem_append_right _ List.mem_cons_self) (hnone _ _)
  | broken _ hparse _ happly =>
    cases readBy_of_parse hparse with
    | document haccepts => exact .of_accepts haccepts hfailures rfl
    | regions hnot _ => exact .of_unfit ⟨_, _, _, hparse, happly⟩ hnot hfailures rfl rfl
  | applied _ hparse _ happly =>
    -- no failure is raised
    refine .of_fit ?_ (hfailures ▸ List.forall_mem_nil _) (hfailures ▸ List.forall_mem_nil _)
    rintro ⟨changes, e, page'', hregions, hfails⟩
    cases hparse.symm.trans hregions
    cases happly.symm.trans hfails

end

/-- A script in the changes of a document fails, and the failure has the document, as it should: the
    one in `failures` is truthful. -/
theorem evidence_script :
    let r : Response :=
      { status := 200
        body := "<partial-response><changes><eval>@throw x</eval></changes></partial-response>" }
    let a := Processor.process {} commandHost.document {} ⟨"a", ⟨1⟩, {}⟩ r (Page.ofHtml "", [])
    (200 ≤ r.status ∧ r.status ≤ 299) ∧ Evidence {} commandHost.document r (Page.ofHtml "", []) a ∧
      Strategy.structured.Accepts {} r.body ∧ a.failures.map (·.responseXml) = [some r.body] := by
  intro r a
  have hevidence : Evidence {} commandHost.document r (Page.ofHtml "", []) a :=
    evidence_process (by decide) {} ⟨"a", ⟨1⟩, {}⟩
  refine ⟨by decide, hevidence, ?_, ?_⟩
  · subst r
    decide +kernel
  · subst a r
    decide +kernel

/-- A script in a body fails that is no document, and the failure has the body as one all the same:
    one of `failures` is not truthful. -/
theorem untruthful_body :
    let r : Response :=
      { status := 200
        body := "<update id=\"javax.faces.ViewBody\"><br><script>@throw late</script></update>" }
    let page := Page.ofHtml "<p id=\"a\"></p>"
    let a := Processor.process {} commandHost.document {} ⟨"src", ⟨1⟩, {}⟩ r (page, [])
    a.failures.map (fun e => (e.kind, e.responseXml)) = [(.clientError, some r.body)] ∧
      ¬ Strategy.structured.Accepts {} r.body ∧ ∃ e ∈ a.failures, ¬ e.Truthful {} r.body := by
  intro r page a
  have hfailures : a.failures.map (fun e => (e.kind, e.responseXml)) =
      [(.clientError, some r.body)] := by
    subst a r page
    decide +kernel
  have hnot : ¬ Strategy.structured.Accepts {} r.body := by
    subst r
    decide +kernel
  refine ⟨hfailures, hnot, ?_⟩
  obtain ⟨e, hsingle, heq⟩ := List.map_eq_singleton_iff.mp hfailures
  refine ⟨e, hsingle ▸ List.mem_singleton_self e, fun htrue => hnot (htrue.accepted_iff.mp ?_)⟩
  exact ⟨r.body, congrArg Prod.snd heq⟩

end PagePatch
