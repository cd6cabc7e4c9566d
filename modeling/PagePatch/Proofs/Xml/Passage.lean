import Mathlib.Data.List.Infix
import PagePatch.Xml.Markup

namespace PagePatch.Xml

/-!
# Documents read from their end

Markup that somebody else wrote may open and close any tags. What can be said of a document in which
it stands is what its end says: if the document can be read at all, then the markup came to an end
before, and what is behind it was read as it is written.

* `Passes` — what can be read with a text in front can be read behind it;
* `PlainMarkup` — markup that stays in texts and tags, and `passes_plainMarkup`;
* `passes_endTag` — an end tag leads back to text from wherever such markup has led;
* `report_last` — the last element of a document whose end is the report of a failure.
-/

/-! ### Reading on -/

/-- If a document can be read to its end from `mode` on with the text `s` in front, its rest can be
    read from `mode'` on behind `s`. What was read in between does not matter. -/
def Passes (mode : Mode) (s : List Char) (mode' : Mode) : Prop :=
  ∀ r start pos rest root, Reading.run r (scanFrom mode start pos (s ++ rest)) = .ok root →
    ∃ r' start' pos', Reading.run r' (scanFrom mode' start' pos' rest) = .ok root

namespace Passes

variable {mode mode' mode'' : Mode} {s t : List Char}

/-- Nothing is passed, and `mode` stays. -/
protected theorem refl (mode : Mode) : Passes mode [] mode :=
  fun r start pos _ _ hrun => ⟨r, start, pos, hrun⟩

/-- **Composition.** The text `s` and then `t` are passed. -/
protected theorem trans (h : Passes mode s mode') (h' : Passes mode' t mode'') :
    Passes mode (s ++ t) mode'' := by
  intro r start pos rest root hrun
  rw [List.append_assoc] at hrun
  obtain ⟨r', start', pos', hrun'⟩ := h r start pos (t ++ rest) root hrun
  exact h' r' start' pos' rest root hrun'

/-- A character `c` that is no fault leads to the mode `mode'`, with or without an event. -/
theorem char {c : Char} (h : ∀ start pos, ∃ event, step mode start pos c = .ok (mode', event)) :
    Passes mode [c] mode' := by
  intro r start pos rest root hrun
  obtain ⟨event, hstep⟩ := h start pos
  simp only [List.singleton_append, scanFrom, hstep] at hrun
  cases event with
  | none => exact ⟨r, _, _, hrun⟩
  | some event =>
    simp only [Reading.run] at hrun
    -- the event that the character completes is taken in, or the document has no root
    cases hevent : r.step event with
    | error fault =>
      rw [hevent] at hrun
      cases hrun
    | ok r' =>
      rw [hevent] at hrun
      exact ⟨r', _, _, hrun⟩

end Passes

/-! ### Tags -/

/-- In a start tag or an end tag, inside the given `quote`, or outside quotes if it is `none`. -/
def Mode.InTag (quote : Option Char) : Mode → Prop
  | .tag q _ | .closing q _ => q = quote
  | _ => False

section

variable {mode : Mode} {quote : Option Char}

/-- A tag goes on with any character `c` but the `>` outside quotes that ends it. -/
theorem Mode.InTag.passes_char (h : mode.InTag quote) {c : Char} (hc : ¬ (c = '>' ∧ quote = none)) :
    ∃ mode', mode'.InTag (quoteAfter quote c) ∧ Passes mode [c] mode' := by
  cases mode with
  | tag q read =>
    obtain rfl : q = quote := h
    exact ⟨.tag (quoteAfter q c) (c :: read), rfl,
      .char fun start pos => ⟨none, by simp only [step, hc, if_false]⟩⟩
  | closing q read =>
    obtain rfl : q = quote := h
    exact ⟨.closing (quoteAfter q c) (c :: read), rfl,
      .char fun start pos => ⟨none, by simp only [step, hc, if_false]⟩⟩
  | _ => cases h

/-- A text `s` that neither begins or ends a value nor ends the tag stays in the tag. -/
theorem Mode.InTag.passes (h : mode.InTag quote) {s : List Char}
    (hs : ∀ c ∈ s, ¬ (c = '>' ∧ quote = none) ∧ quoteAfter quote c = quote) :
    ∃ mode', mode'.InTag quote ∧ Passes mode s mode' := by
  induction s generalizing mode with
  | nil => exact ⟨mode, h, .refl mode⟩
  | cons c s ih =>
    obtain ⟨hc, hquote⟩ := hs c List.mem_cons_self
    obtain ⟨next, hnext, hpass⟩ := h.passes_char hc
    rw [hquote] at hnext
    obtain ⟨mode', hmode', hrest⟩ := ih hnext fun x hx => hs x (List.mem_cons_of_mem c hx)
    exact ⟨mode', hmode', hpass.trans hrest⟩

/-- A tag ends in text, be it a start tag or an end tag: the `mode` is outside quotes. -/
theorem Mode.InTag.passes_end (h : mode.InTag none) : Passes mode ['>'] (.text []) := by
  cases mode with
  | tag q read =>
    obtain rfl : q = none := h
    exact .char fun start pos => ⟨some (tagEvent read), rfl⟩
  | closing q read =>
    obtain rfl : q = none := h
    exact .char fun start pos => ⟨some (.finish (endName read) start), rfl⟩
  | _ => cases h

end

/-- A character that is neither a quote nor the end of a tag, so that `StaysInTag` holds of it. -/
def isInside (c : Char) : Bool :=
  c != '"' && c != '\'' && c != '>'

/-- Such a character `c` stays in a tag outside quotes. -/
theorem inside_stays {c : Char} (h : isInside c = true) :
    ¬ (c = '>' ∧ (none : Option Char) = none) ∧ quoteAfter none c = none := by
  simp only [isInside, Bool.and_eq_true, bne_iff_ne, ne_eq] at h
  obtain ⟨⟨hdouble, hsingle⟩, hend⟩ := h
  exact ⟨fun hboth => hend hboth.1, by simp [quoteAfter, hdouble, hsingle]⟩

/-- In text a tag is opened by a `<` and any character `c` that is no end and begins no other
    markup. -/
theorem passes_opened {c : Char} {s : List Char} (read : List Char) (hc : c ∉ ['!', '/', '?'])
    (hs : (c :: s).all isInside = true) :
    ∃ mode', mode'.InTag none ∧ Passes (.text read) ('<' :: c :: s) mode' := by
  rw [List.all_cons, Bool.and_eq_true, List.all_eq_true] at hs
  obtain ⟨hinside, hrest⟩ := hs
  have hopen : Passes (.text read) ['<'] .opened :=
    .char fun start pos => ⟨if read.isEmpty then none else some (.text read.reverse), rfl⟩
  have hfirst : Passes .opened [c] (.tag none [c]) := by
    obtain ⟨hend, hquote⟩ := inside_stays hinside
    simp only [List.mem_cons, List.not_mem_nil, or_false, not_or] at hc
    obtain ⟨hbang, hslash, hquestion⟩ := hc
    have hgt : c ≠ '>' := fun heq => hend ⟨heq, rfl⟩
    exact .char fun start pos => ⟨none, by
      simp only [step, hbang, hslash, hquestion, hgt, hquote, if_false]⟩
  have htag : (Mode.tag none [c]).InTag none := rfl
  obtain ⟨mode', hmode', hpass⟩ := htag.passes fun x hx => inside_stays (hrest x hx)
  exact ⟨mode', hmode', (hopen.trans hfirst).trans hpass⟩

/-- A start tag without attributes leads from text to text: its first character `c` is not one that
    begins other markup. -/
theorem passes_startTag {c : Char} {s : List Char} (read : List Char) (hc : c ∉ ['!', '/', '?'])
    (hs : (c :: s).all isInside = true) :
    Passes (.text read) ('<' :: c :: s ++ ['>']) (.text []) := by
  obtain ⟨mode', hmode', hpass⟩ := passes_opened read hc hs
  exact hpass.trans hmode'.passes_end

/-- An attribute value `s` in double quotes, which has no such quote in it, stays in a tag. -/
theorem Mode.InTag.passes_value {mode : Mode} (h : mode.InTag none) {s : List Char}
    (hs : '"' ∉ s) : ∃ mode', mode'.InTag none ∧ Passes mode ('"' :: s ++ ['"']) mode' := by
  obtain ⟨quoted, hquoted, hbegin⟩ := h.passes_char (c := '"') (by decide)
  obtain ⟨behind, hbehind, hvalue⟩ := Mode.InTag.passes (s := s) hquoted (by
    intro c hc
    have hne : c ≠ '"' := fun heq => hs (heq ▸ hc)
    exact ⟨fun hboth => absurd hboth.2 nofun, if_neg hne⟩)
  obtain ⟨mode', hmode', hend⟩ := hbehind.passes_char (c := '"') (by decide)
  exact ⟨mode', hmode', (hbegin.trans hvalue).trans hend⟩

/-! ### Markup -/

/-- Markup without quotes, and without anything that begins with `<` and is no tag. It need not be
    well formed. -/
structure PlainMarkup (s : List Char) : Prop where
  /-- No value in double quotes. -/
  double : '"' ∉ s
  /-- No value in single quotes. -/
  single : '\'' ∉ s
  /-- No comment, no character data and no document type. -/
  declaration : ¬ ['<', '!'] <:+: s
  /-- No processing instruction. -/
  instruction : ¬ ['<', '?'] <:+: s

instance : DecidablePred PlainMarkup := fun s =>
  decidable_of_iff ('"' ∉ s ∧ '\'' ∉ s ∧ ¬ ['<', '!'] <:+: s ∧ ¬ ['<', '?'] <:+: s)
    ⟨fun ⟨hdouble, hsingle, hdeclaration, hinstruction⟩ =>
      ⟨hdouble, hsingle, hdeclaration, hinstruction⟩,
      fun h => ⟨h.double, h.single, h.declaration, h.instruction⟩⟩

/-- The rest `s` of such markup is such markup. -/
theorem PlainMarkup.tail {c : Char} {s : List Char} (h : PlainMarkup (c :: s)) : PlainMarkup s where
  double := fun hmem => h.double (List.mem_cons_of_mem c hmem)
  single := fun hmem => h.single (List.mem_cons_of_mem c hmem)
  declaration := fun hpart => h.declaration (hpart.trans (List.suffix_cons c s).isInfix)
  instruction := fun hpart => h.instruction (hpart.trans (List.suffix_cons c s).isInfix)

/-- The places that such markup can lead to: in text, directly behind a `<`, or in a tag outside
    quotes. -/
def Mode.IsPlain : Mode → Prop
  | .text _ | .opened => True
  | mode => mode.InTag none

/-- Text is a plain place, whatever was `read` of it. -/
theorem Mode.isPlain_text (read : List Char) : (Mode.text read).IsPlain :=
  trivial

/-- A tag outside quotes is a plain place, so `mode` is one. -/
theorem Mode.InTag.isPlain {mode : Mode} (h : mode.InTag none) : mode.IsPlain := by
  cases mode with
  | tag q read => exact h
  | closing q read => exact h
  | _ => cases h

/-- A character `c` of such markup leads from one plain place to another, and to the place behind a
    `<` only if it is this one. -/
theorem Mode.IsPlain.passes_char {mode : Mode} (h : mode.IsPlain) {c : Char}
    (hdouble : c ≠ '"') (hsingle : c ≠ '\'') (hopened : mode = .opened → c ≠ '!' ∧ c ≠ '?') :
    ∃ mode', mode'.IsPlain ∧ (mode' = .opened → c = '<') ∧ Passes mode [c] mode' := by
  have hquote : quoteAfter none c = none := by simp [quoteAfter, hdouble, hsingle]
  -- in a tag, the character ends the tag or goes on with it
  have hintag : mode.InTag none →
      ∃ mode', mode'.IsPlain ∧ (mode' = .opened → c = '<') ∧ Passes mode [c] mode' := by
    intro htag
    by_cases hend : c = '>'
    · subst hend
      exact ⟨.text [], trivial, nofun, htag.passes_end⟩
    · obtain ⟨mode', hmode', hpass⟩ := htag.passes_char fun hboth => hend hboth.1
      rw [hquote] at hmode'
      refine ⟨mode', hmode'.isPlain, ?_, hpass⟩
      rintro rfl
      cases hmode'
  cases mode with
  | text read =>
    by_cases hlt : c = '<'
    · subst hlt
      exact ⟨.opened, trivial, fun _ => rfl, .char fun start pos => ⟨_, rfl⟩⟩
    · exact ⟨.text (c :: read), trivial, nofun, .char fun start pos => ⟨none, by
        simp only [step, hlt, if_false]⟩⟩
  | opened =>
    obtain ⟨hbang, hquestion⟩ := hopened rfl
    by_cases hslash : c = '/'
    · subst hslash
      exact ⟨.closing none [], rfl, nofun, .char fun start pos => ⟨none, rfl⟩⟩
    · by_cases hend : c = '>'
      · subst hend
        exact ⟨.text [], trivial, nofun, .char fun start pos => ⟨some (tagEvent []), rfl⟩⟩
      · exact ⟨.tag none [c], rfl, nofun, .char fun start pos => ⟨none, by
          simp only [step, hbang, hslash, hquestion, hend, hquote, if_false]⟩⟩
  | tag q read => exact hintag h
  | closing q read => exact hintag h
  | _ => cases h

/-- **Markup stays in texts and tags.** Plain markup `s` leads from a plain place to a plain place.
    The tags may be any ones, and the last one may be open. -/
theorem passes_plainMarkup {s : List Char} (hs : PlainMarkup s) {mode : Mode} (h : mode.IsPlain)
    (hopened : mode = .opened → PlainMarkup ('<' :: s)) :
    ∃ mode', mode'.IsPlain ∧ Passes mode s mode' := by
  -- at every character the mode is a plain one, and behind `<` this `<` belongs to the markup
  induction s generalizing mode with
  | nil => exact ⟨mode, h, .refl mode⟩
  | cons c s ih =>
    have hdouble : c ≠ '"' := fun heq => hs.double (heq ▸ List.mem_cons_self)
    have hsingle : c ≠ '\'' := fun heq => hs.single (heq ▸ List.mem_cons_self)
    have hfollows : mode = .opened → c ≠ '!' ∧ c ≠ '?' := by
      intro hmode
      have hlt := hopened hmode
      constructor
      · rintro rfl
        exact hlt.declaration (List.prefix_append ['<', '!'] s).isInfix
      · rintro rfl
        exact hlt.instruction (List.prefix_append ['<', '?'] s).isInfix
    obtain ⟨next, hnext, hlt, hpass⟩ := h.passes_char hdouble hsingle hfollows
    obtain ⟨mode', hmode', hrest⟩ := ih hs.tail hnext fun heq => hlt heq ▸ hs
    exact ⟨mode', hmode', hpass.trans hrest⟩

/-- **An end tag leads back to text,** also when it is the rest of a tag that markup left open: from
    any plain `mode`. -/
theorem passes_endTag {mode : Mode} (h : mode.IsPlain) (name : List Char)
    (hname : name.all isInside = true) :
    Passes mode ('<' :: '/' :: name ++ ['>']) (.text []) := by
  rw [List.all_eq_true] at hname
  have hbegin : ∃ mode', mode'.InTag none ∧ Passes mode ['<', '/'] mode' := by
    -- the `</` leads into a tag: into a new one, or on in the one that is open
    have hinTag : mode.InTag none → ∃ mode', mode'.InTag none ∧ Passes mode ['<', '/'] mode' :=
      fun htag => htag.passes (s := ['<', '/']) (by simp [quoteAfter])
    cases mode with
    | text read =>
      have hlt : Passes (.text read) ['<'] .opened := .char fun start pos => ⟨_, rfl⟩
      have hslash : Passes .opened ['/'] (.closing none []) := .char fun start pos => ⟨none, rfl⟩
      exact ⟨.closing none [], rfl, hlt.trans hslash⟩
    | opened =>
      have hlt : Passes .opened ['<'] (.tag none ['<']) := .char fun start pos => ⟨none, rfl⟩
      have htag : (Mode.tag none ['<']).InTag none := rfl
      obtain ⟨mode', hmode', hslash⟩ := htag.passes_char (c := '/') (by decide)
      exact ⟨mode', hmode', hlt.trans hslash⟩
    | tag q read => exact hinTag h
    | closing q read => exact hinTag h
    | _ => cases h
  obtain ⟨inside, hinside, hopen⟩ := hbegin
  obtain ⟨mode', hmode', hpass⟩ := hinside.passes fun c hc => inside_stays (hname c hc)
  exact (hopen.trans hpass).trans hmode'.passes_end

/-! ### The end of a document -/

/-- Text without a `<` is gathered, and no event comes of it. -/
theorem scanFrom_text {s : List Char} (hs : '<' ∉ s) (read : List Char) (start pos : Nat)
    (rest : List Char) : ∃ start' pos', scanFrom (.text read) start pos (s ++ rest) =
      scanFrom (.text (s.reverse ++ read)) start' pos' rest := by
  induction s generalizing read start pos with
  | nil => exact ⟨start, pos, rfl⟩
  | cons c s ih =>
    rw [List.mem_cons, not_or] at hs
    obtain ⟨hc, hrest⟩ := hs
    obtain ⟨start', pos', heq⟩ := ih hrest (c :: read) pos (pos + c.utf8Size)
    refine ⟨start', pos', ?_⟩
    rw [List.cons_append, scanFrom, step, if_neg (Ne.symm hc), List.reverse_cons, List.append_assoc]
    exact heq

/-- The text `s` leaves the name of an element as it is. -/
theorem Element.addText_name (e : Element) (s : String) : (e.addText s).name = e.name := by
  unfold Element.addText
  split <;> rfl

/-- The end of a document that reports a failure with the name `name`. -/
def reportText (name : List Char) : List Char :=
  "<error><error-name>".toList ++ name ++ "</error-name></error></partial-response>".toList

/-- The start tags of a report, `error` and `error-name`. -/
theorem scanFrom_reportStart (start pos : Nat) (rest : List Char) : ∃ start' pos',
    scanFrom (.text []) start pos ("<error><error-name>".toList ++ rest) =
      .more (.start "error".toList) (.more (.start "error-name".toList)
        (scanFrom (.text []) start' pos' rest)) :=
  ⟨_, _, rfl⟩

/-- The events of its three end tags, which stand at the positions `a`, `b` and `c`. -/
def reportEnd (a b c : Nat) : Events :=
  .more (.finish "error-name".toList a) (.more (.finish "error".toList b)
    (.more (.finish "partial-response".toList c) .done))

/-- The end tags of a report follow the text `read` that was gathered, as an event of its own unless
    it is empty. -/
theorem scanFrom_reportEnd (read : List Char) (start pos : Nat) : ∃ a b c,
    scanFrom (.text read) start pos "</error-name></error></partial-response>".toList =
      if read.isEmpty then reportEnd a b c else .more (.text read.reverse) (reportEnd a b c) := by
  cases read with
  | nil => exact ⟨_, _, _, rfl⟩
  | cons c read => exact ⟨_, _, _, rfl⟩

/-- The end tags leave a root with `report` as its last element, if they leave a root at all: then
    the element around the report is the outermost one. -/
theorem root_of_reportEnd {name report : Element} {outer : List Element} {before : Option Element}
    {a b c : Nat} {root : Element} (hname : name.name = "error-name")
    (hreport : report.name = "error")
    (h : Reading.run { stack := name :: report :: outer, root := before } (reportEnd a b c) =
      .ok root) :
    root.name = "partial-response" ∧
      ∃ elements e, root.elements = elements ++ [e] ∧ e.name = "error" := by
  have hreport' : (report.addChild name.toNode).name = "error" := hreport
  simp only [reportEnd, Reading.run, Reading.step, hname, String.ofList_toList, if_true,
    Reading.attach, hreport'] at h
  cases outer with
  -- the report would be the root itself, and nothing would be left to end
  | nil =>
    cases before <;> simp at h
  | cons parent outer =>
    by_cases hparent : parent.name = "partial-response"
    · simp only [Element.addChild, hparent, if_true] at h
      cases outer with
      | nil =>
        cases before with
        | none =>
          obtain rfl := Except.ok.inj h
          exact ⟨rfl, parent.elements, _, List.filterMap_append, hreport⟩
        | some other => cases h
      -- an element around the root would still be open
      | cons _ _ => cases h
    · simp only [Element.addChild, hparent, if_false] at h
      cases h

/-- **The end counts.** A document that ends in the report of a failure has this report as the last
    element of its root, if it can be read at all. Whatever `r` was open in front, the end tags
    close no more than their own elements and the root. -/
theorem report_last {r : Reading} {start pos : Nat} {name : List Char} {root : Element}
    (hname : '<' ∉ name)
    (h : Reading.run r (scanFrom (.text []) start pos (reportText name)) = .ok root) :
    root.name = "partial-response" ∧
      ∃ elements e, root.elements = elements ++ [e] ∧ e.name = "error" := by
  obtain ⟨start₁, pos₁, hopen⟩ := scanFrom_reportStart start pos
    (name ++ "</error-name></error></partial-response>".toList)
  obtain ⟨start₂, pos₂, htext⟩ := scanFrom_text hname [] start₁ pos₁
    "</error-name></error></partial-response>".toList
  obtain ⟨a, b, c, hclose⟩ := scanFrom_reportEnd name.reverse start₂ pos₂
  have hreport : r.step (.start "error".toList) =
      .ok { r with stack := ⟨"error", [], []⟩ :: r.stack } := rfl
  have hnamed : ∀ r : Reading, r.step (.start "error-name".toList) =
      .ok { r with stack := ⟨"error-name", [], []⟩ :: r.stack } := fun r => rfl
  unfold reportText at h
  rw [List.append_assoc, hopen, htext, List.append_nil, hclose] at h
  simp only [Reading.run, hreport, hnamed] at h
  by_cases hempty : name.reverse.isEmpty = true
  · rw [if_pos hempty] at h
    exact root_of_reportEnd rfl rfl h
  · rw [if_neg hempty] at h
    simp only [Reading.run, Reading.step, Reading.addText] at h
    exact root_of_reportEnd (Element.addText_name _ _) rfl h

end PagePatch.Xml
