import PagePatch.Html.Parse
import PagePatch.Proofs.Html.Decode
import PagePatch.Proofs.Html.Growth
import PagePatch.Proofs.Xml.Content

namespace PagePatch.Html

/-!
# Boxes

Markup of `div` and `span` elements, nested to any depth, needs no repair: the tree of a piece of
page is what was written, with the references in texts and values decoded.

* `Flow` — text with elements in it, for texts and tags of any kind;
* `BoxTag`, `boxText` — the elements as they are written;
* `Flow.nodes` — the trees;
* `builds_flow`, `parseFragment_boxText` — reading what was written.
-/

open Xml (Run endTagText attributesText)

/-! ### Text with elements in it -/

/-- Text with elements in it, for texts of a type `τ` and tags of a type `θ`: the same shape for
    what is written, what is read and what is meant. -/
inductive Flow (τ θ : Type) where
  /-- Text alone. -/
  | text (t : τ)
  /-- Text, an element and what follows. -/
  | element (before : τ) (tag : θ) (inner after : Flow τ θ)

namespace Flow

variable {τ τ' τ'' θ θ' θ'' : Type}

/-- The same elements with other texts, by `f`, and other tags, by `g`. -/
def map (f : τ → τ') (g : θ → θ') : Flow τ θ → Flow τ' θ'
  | text t => .text (f t)
  | element before tag inner after =>
    .element (f before) (g tag) (inner.map f g) (after.map f g)

/-- The texts of a `Flow`, in the order in which they stand. -/
def texts : Flow τ θ → List τ
  | text t => [t]
  | element before _ inner after => before :: (inner.texts ++ after.texts)

/-- The tags of a `Flow`, in the order in which they stand. -/
def tags : Flow τ θ → List θ
  | text _ => []
  | element _ tag inner after => tag :: (inner.tags ++ after.tags)

/-- One change of `x` after another one is a change by both. -/
theorem map_map (f : τ → τ') (g : θ → θ') (f' : τ' → τ'') (g' : θ' → θ'') (x : Flow τ θ) :
    (x.map f g).map f' g' = x.map (f' ∘ f) (g' ∘ g) := by
  induction x with
  | text t => rfl
  | element before tag inner after ihInner ihAfter =>
    rw [map, map, ihInner, ihAfter]
    rfl

/-- **Two changes are the same if they are the same for each text and each tag** that occurs in
    `x`. -/
theorem map_eq_map_iff {f f' : τ → τ'} {g g' : θ → θ'} {x : Flow τ θ} :
    x.map f g = x.map f' g' ↔ (∀ t ∈ x.texts, f t = f' t) ∧ ∀ tag ∈ x.tags, g tag = g' tag := by
  induction x with
  | text t => simp [map, texts, tags]
  | element before tag inner after ihInner ihAfter =>
    simp only [map, texts, tags, element.injEq, ihInner, ihAfter, List.forall_mem_cons,
      List.forall_mem_append]
    grind

end Flow

/-! ### Tags -/

/-- The tag of a `div` or `span` element, as it can be written in XML and in HTML. HTML takes a form
    feed in a key as its end, so keys have none. -/
structure BoxTag extends Xml.Tag where
  /-- It is one of the two elements whose rules are the plainest. -/
  isBox : name = "div".toList ∨ name = "span".toList := by decide
  /-- No key has a form feed in it. -/
  whole : ∀ a ∈ attributes, '\x0c' ∉ a.1 := by decide

namespace BoxTag

/-- The start tag `t` as it is written. -/
def write (t : BoxTag) : List Char :=
  '<' :: t.inside ++ ['>']

/-- The start tag `t` as it is read, by `readNamedTag`. -/
def read (t : BoxTag) : Tag where
  name := String.ofList t.name
  attributes := heldAttributes t.attributes

/-- The keys of `t` are read as they are written. -/
theorem keys_isKeyChar (t : BoxTag) {a : List Char × List Char} (ha : a ∈ t.attributes) :
    a.1 ≠ [] ∧ a.1.all isKeyChar = true := by
  obtain ⟨hne, hchars⟩ := t.keys a ha
  refine ⟨hne, List.all_eq_true.mpr fun c hc => ?_⟩
  have hfeed : c ≠ '\x0c' := fun h => t.whole a ha (h ▸ hc)
  obtain ⟨hspace, -, -, -, hgt, hslash, hequals, -⟩ :=
    Xml.isNameChar_iff.mp (List.all_eq_true.mp hchars c hc)
  simp only [Xml.isSpace, Bool.or_eq_false_iff, beq_eq_false_iff_ne] at hspace
  simp [isKeyChar, isSpace, hspace, hfeed, hgt, hslash, hequals]

/-- The name of `t` begins with a letter. -/
theorem name_eq (t : BoxTag) : ∃ c rest, t.name = c :: rest ∧ c.isAlpha = true := by
  rcases t.isBox with h | h
  · exact ⟨'d', ['i', 'v'], h, by decide⟩
  · exact ⟨'s', ['p', 'a', 'n'], h, by decide⟩

/-- The tag `t` is read up to its end, with its name and the attributes that it holds. -/
theorem readNamedTag_name (t : BoxTag) {as : List (List Char × List Char)}
    (hkeys : ∀ a ∈ as, a.1 ≠ [] ∧ a.1.all isKeyChar = true) (hvalues : ∀ a ∈ as, '"' ∉ a.2)
    (rest : List Char) : readNamedTag (t.name ++ (attributesText as ++ '>' :: rest)) =
      some ({ name := String.ofList t.name, attributes := heldAttributes as }, rest) := by
  have hname : t.name.all (fun c => !endsTagName c && nameChar c == c) = true := by
    rcases t.isBox with h | h <;> rw [h] <;> decide
  rw [readNamedTag_append hname (endsTagName_attributesText as rfl),
    readAttributes_attributesText hkeys hvalues]
  rfl

/-- The start tag `t` is cut out of a text as one token. -/
theorem lex_start (t : BoxTag) (element : String) (rest : List Char) :
    lex .data element false '<' (t.inside ++ '>' :: rest) = ⟨[.startTag t.read], .data, rest⟩ := by
  obtain ⟨c, tail, hname, hc⟩ := t.name_eq
  have htext : t.inside ++ '>' :: rest =
      c :: (tail ++ (attributesText t.attributes ++ '>' :: rest)) := by
    rw [Xml.Tag.inside, List.append_assoc, hname, List.cons_append]
  have hread : readNamedTag (c :: (tail ++ (attributesText t.attributes ++ '>' :: rest))) =
      some (t.read, rest) := by
    rw [← List.cons_append, ← hname]
    exact t.readNamedTag_name (fun a ha => t.keys_isKeyChar ha) t.values rest
  rw [htext]
  show lexMarkup false (c :: (tail ++ (attributesText t.attributes ++ '>' :: rest))) = _
  rw [lexMarkup_letter hc, hread]
  rfl

/-- So is the end tag of an element with the name of `t`. -/
theorem lex_end (t : BoxTag) (element : String) (rest : List Char) :
    lex .data element false '<' ('/' :: t.name ++ '>' :: rest) =
      ⟨[.endTag { name := String.ofList t.name }], .data, rest⟩ := by
  obtain ⟨c, tail, hname, hc⟩ := t.name_eq
  have htext : '/' :: t.name ++ '>' :: rest = '/' :: c :: (tail ++ '>' :: rest) := by
    rw [hname]
    rfl
  have hread : readNamedTag (c :: (tail ++ '>' :: rest)) =
      some ({ name := String.ofList t.name }, rest) := by
    rw [← List.cons_append, ← hname]
    exact @readNamedTag_name t [] nofun nofun rest
  rw [htext]
  show lexMarkup false ('/' :: c :: (tail ++ '>' :: rest)) = _
  rw [lexMarkup, if_pos hc, hread]

end BoxTag

/-! ### States of the builder -/

namespace Builder

/-- The names of the elements that can be open while boxes are read; `html` is the root of a
    fragment. -/
def boxNames : List Name :=
  [⟨.html, "div"⟩, ⟨.html, "span"⟩, ⟨.html, "html"⟩]

/-- A state `b` of the reader in which nothing but boxes and the root is open, and nothing special
    is to happen. -/
structure InBoxes (b : Builder) : Prop where
  /-- The rules for the body are in force. -/
  mode : b.mode = .inBody
  /-- No formatting element is to be opened again. -/
  formatting : b.formatting = []
  /-- Nothing goes in front of a table. -/
  fostering : b.fostering = false
  /-- No line feed is dropped. -/
  skipNewline : b.skipNewline = false
  /-- Text is cut as before. -/
  lexing : b.lexing = none
  /-- The open elements are boxes and the root. -/
  opened : ∀ o ∈ b.opened, o.name ∈ boxNames

/-- In HTML no token `t` falls under the rules for other vocabularies, whatever it is. -/
theorem isForeign_of_inForeign {b : Builder} (h : b.inForeign = false) (t : Token) :
    Rules.isForeign b t = false := by
  unfold inForeign at h
  unfold Rules.isForeign
  split
  · rfl
  · rename_i n hn
    rw [hn, Option.any_some, bne_eq_false_iff_eq] at h
    rw [if_pos (by rw [h]; rfl)]

namespace InBoxes

variable {b b' : Builder} {o : Open} {outer : List Open}

/-- The innermost open element of `b` belongs to HTML. -/
theorem inForeign (hb : b.InBoxes) : b.inForeign = false := by
  unfold Builder.inForeign adjustedCurrent?
  split
  · rfl
  · unfold current?
    cases hopened : b.opened with
    | nil => rfl
    | cons o outer =>
      have hname := hb.opened o (by rw [hopened]; exact List.mem_cons_self)
      have hspace : ∀ n ∈ boxNames, n.space = .html := by decide
      rw [List.head?_cons, Option.map_some, Option.any_some, hspace _ hname]
      rfl

/-- A reader that has nothing to drop and nowhere to switch to is not changed by clearing this, as
    `read` does. -/
theorem clear (hb : b.InBoxes) : { b with skipNewline := false, lexing := none } = b := by
  rw [← hb.skipNewline, ← hb.lexing]

/-- The rules for the body are in force for every token `t`. -/
theorem step_eq (hb : b.InBoxes) (t : Token) : b.step t = Rules.inBody b t := by
  unfold Builder.step
  rw [isForeign_of_inForeign hb.inForeign, if_neg Bool.false_ne_true, byMode, hb.mode]

/-- **A token that the rules for the body take is read by them,** and the state `b'` that they make
    is the next one. -/
theorem read_eq (hb : b.InBoxes) {t : Token} (ht : ∀ d, t ≠ .doctype d) (hfault : t ≠ .fault)
    (h : Rules.inBody b t = .taken b') : b.read t = b' := by
  have hsteps : steps t b.patience b = b' := by
    have hpatience : b.patience = (4 * b.opened.length + 31) + 1 := rfl
    rw [hpatience, steps, hb.step_eq, h]
  unfold read
  simp only [hb.clear, hb.skipNewline]
  split
  · exact absurd rfl hfault
  · exact absurd rfl (ht _)
  · exact hsteps
  · exact hsteps

/-- A `fault` changes nothing. -/
theorem read_fault (hb : b.InBoxes) : b.read .fault = b :=
  hb.clear

/-- No formatting element of `b` is opened again, as none is kept. -/
theorem reopenFormatting (hb : b.InBoxes) : b.reopenFormatting = b := by
  have hform : { b with formatting := [] } = b := by rw [← hb.formatting]
  unfold Builder.reopenFormatting
  rw [hb.formatting]
  exact hform

/-- New nodes go to the end of the innermost open element `o`. -/
theorem place (hb : b.InBoxes) (hopened : b.opened = o :: outer) : b.place = .last o.slot := by
  have hnames : ∀ n ∈ boxNames, n.isHtml "template" = false := by decide
  have ho : o ∈ b.opened := by rw [hopened]; exact List.mem_cons_self
  rw [Builder.place, hopened]
  show b.placeIn o = _
  unfold placeIn
  rw [hb.fostering, hnames _ (hb.opened o ho)]
  rfl

/-- The state may differ in `framesetOk`, whether a frameset can still come. -/
theorem withFrameset (hb : b.InBoxes) (ok : Bool) :
    ({ b with framesetOk := ok } : Builder).InBoxes :=
  ⟨hb.mode, hb.formatting, hb.fostering, hb.skipNewline, hb.lexing, hb.opened⟩

/-- No paragraph is open in `b`. -/
theorem endParagraphInScope (hb : b.InBoxes) : b.endParagraphInScope = b := by
  have hnames : ∀ n ∈ boxNames, n.isHtml "p" = false := by decide
  have hscope : ∀ os : List Open, (∀ o ∈ os, o.name ∈ boxNames) →
      inScope.go Name.endsButtonScope (·.name.isHtml "p") os = false := by
    intro os
    induction os with
    | nil => exact fun _ => rfl
    | cons o os ih =>
      intro hos
      rw [inScope.go, hnames _ (hos o List.mem_cons_self),
        ih fun o ho => hos o (List.mem_cons_of_mem _ ho), Bool.and_false, Bool.or_false]
  unfold Builder.endParagraphInScope inScopeNamed inScope
  rw [hscope _ hb.opened, if_neg Bool.false_ne_true]

end InBoxes

/-- The state `b'` is the state `b` behind the characters `cs` of text at the end of the slot
    `p`. -/
structure Wrote (b b' : Builder) (p : Nat) (cs : List Char) : Prop where
  /-- Boxes can still be read. -/
  inBoxes : b'.InBoxes
  /-- The same elements are open. -/
  opened : b'.opened = b.opened
  /-- The characters are in their place. -/
  store : b'.store = cs.foldl (fun s c => s.appendChar p c) b.store

namespace InBoxes

variable {b b' : Builder} {o : Open} {outer : List Open}

/-- A character is added to the innermost open element `o`, unless it is null. -/
theorem read_char (hb : b.InBoxes) (hopened : b.opened = o :: outer) (c : Char) :
    Wrote b (b.read (.char c)) o.slot ([c].filter (· ≠ '\x00')) := by
  have hread : b.read (.char c) = Rules.charInBody b c :=
    hb.read_eq (t := .char c) nofun nofun rfl
  rw [hread]
  unfold Rules.charInBody
  by_cases hnull : c = '\x00'
  · rw [if_pos hnull]
    subst hnull
    exact ⟨hb, rfl, rfl⟩
  · have hinsert : ∀ ok, Wrote b (({ b with framesetOk := ok } : Builder).insertChar c) o.slot
        ([c].filter (· ≠ '\x00')) := by
      intro ok
      have hplace := (hb.withFrameset ok).place (o := o) hopened
      have hkept : [c].filter (· ≠ '\x00') = [c] := by simp [hnull]
      unfold insertChar
      rw [hplace, hkept]
      exact ⟨⟨hb.mode, hb.formatting, hb.fostering, hb.skipNewline, hb.lexing, hb.opened⟩, rfl,
        rfl⟩
    rw [if_neg hnull, hb.reopenFormatting]
    dsimp only
    split
    · exact hinsert b.framesetOk
    · exact hinsert false

/-- So are several characters `cs`, one after the other. -/
theorem read_chars (hb : b.InBoxes) (hopened : b.opened = o :: outer) (cs : List Char) :
    Wrote b ((charTokens cs).foldl read b) o.slot (cs.filter (· ≠ '\x00')) := by
  induction cs generalizing b with
  | nil => exact ⟨hb, rfl, rfl⟩
  | cons c cs ih =>
    have hfirst := hb.read_char hopened c
    have hrest := ih hfirst.inBoxes (hfirst.opened.trans hopened)
    have hsplit : (c :: cs).filter (· ≠ '\x00') =
        [c].filter (· ≠ '\x00') ++ cs.filter (· ≠ '\x00') := by
      rw [← List.filter_append]
      rfl
    refine ⟨hrest.inBoxes, hrest.opened.trans hfirst.opened, ?_⟩
    rw [hsplit, List.foldl_append, ← hfirst.store]
    exact hrest.store

/-- In the body a start tag of the box `t` opens its element, and nothing else happens. -/
theorem inBody_start (hb : b.InBoxes) (t : BoxTag) :
    Rules.inBody b (.startTag t.read) = .taken (b.openTag t.read) := by
  show Rules.startInBody b t.read = _
  unfold Rules.startInBody
  rcases t.isBox with h | h
  · have hname : BodyStart.ofName t.read.name = .block := by
      rw [BoxTag.read, h]
      rfl
    rw [hname]
    dsimp only
    rw [hb.endParagraphInScope]
  · have hname : BodyStart.ofName t.read.name = .other := by
      rw [BoxTag.read, h]
      rfl
    rw [hname]
    dsimp only
    rw [hb.reopenFormatting]

/-- So `t` does when it is read. -/
theorem read_start (hb : b.InBoxes) (t : BoxTag) :
    b.read (.startTag t.read) = b.openTag t.read :=
  hb.read_eq (t := .startTag t.read) nofun nofun (hb.inBody_start t)

/-- The end of the text changes nothing in `b`. -/
theorem read_ending (hb : b.InBoxes) : b.read .ending = b := by
  have hnames : ∀ n ∈ boxNames, n.isHtml "template" = false := by decide
  have hopen : b.hasOpen "template" = false := by
    rw [hasOpen, List.any_eq_false]
    intro o ho
    rw [hnames _ (hb.opened o ho)]
    exact Bool.false_ne_true
  refine hb.read_eq (t := .ending) nofun nofun ?_
  show Rules.atEnd b = _
  rw [Rules.atEnd, if_neg (by rw [hopen]; exact Bool.false_ne_true)]

/-- The state with a further element open, that of `t`, in a new slot at the end of the innermost
    one. -/
theorem openTag (hb : b.InBoxes) (hopened : b.opened = o :: outer) (t : BoxTag) :
    (b.openTag t.read).InBoxes ∧
      (b.openTag t.read).opened = ⟨b.store.slots.size, .html, String.ofList t.name⟩ :: b.opened ∧
      (b.openTag t.read).store = b.store.addChild o.slot (.element t.read.element) := by
  have hname : (t.read.element.name == "template") = false := by
    show (String.ofList t.name == "template") = false
    rcases t.isBox with h | h <;> rw [h] <;> rfl
  have hcreate : b.createElement t.read.element =
      ({ b with store := (b.store.create (.element t.read.element)).1 }, b.store.slots.size) := by
    unfold createElement Store.createElement
    rw [hname, Bool.and_false, if_neg Bool.false_ne_true]
    rfl
  have hbox : ⟨.html, String.ofList t.name⟩ ∈ boxNames := by
    rcases t.isBox with h | h <;> rw [h] <;> decide
  unfold Builder.openTag insertElement insertClosed
  rw [hcreate, hb.place hopened]
  refine ⟨⟨hb.mode, hb.formatting, hb.fostering, hb.skipNewline, hb.lexing, ?_⟩, rfl, rfl⟩
  exact List.forall_mem_cons.mpr ⟨hbox, hb.opened⟩

/-- Up to the innermost open element `o` nothing ends. -/
theorem popTo_of_head (hopened : b.opened = o :: outer) {p : Name → Bool} (hp : p o.name = true) :
    b.popTo p = b := by
  unfold popTo
  rw [hopened, List.dropWhile_cons_of_neg (by simp [hp]), ← hopened]

/-- An end tag of the box `t` ends its element, if this is the innermost one. -/
theorem read_end (hb : b.InBoxes) (t : BoxTag) {n : Nat}
    (hopened : b.opened = ⟨n, .html, String.ofList t.name⟩ :: outer) :
    b.read (.endTag { name := String.ofList t.name }) = { b with opened := outer } := by
  refine hb.read_eq (t := .endTag { name := String.ofList t.name }) nofun nofun ?_
  show Rules.endInBody b { name := String.ofList t.name } = _
  unfold Rules.endInBody
  rcases t.isBox with h | h
  -- a `div` closes what is open in it, which is nothing here
  · rw [h, String.ofList_toList] at hopened ⊢
    have hname : BodyEnd.ofName "div" = .block := rfl
    have hscope : b.inScopeNamed Name.endsScope "div" = true := by
      unfold inScopeNamed inScope
      rw [hopened]
      rfl
    have himplied : b.endImplied = b := popTo_of_head hopened (p := (!·.endsByItself)) rfl
    have hpop : b.popThroughNamed "div" = { b with opened := outer } := by
      unfold popThroughNamed popThrough
      rw [popTo_of_head hopened rfl, pop, hopened]
      rfl
    dsimp only
    rw [hname, hscope, himplied, hpop, if_pos rfl]
  · rw [h, String.ofList_toList] at hopened ⊢
    have hname : BodyEnd.ofName "span" = .other := rfl
    have hend : b.endTagInBody "span" = { b with opened := outer } := by
      unfold endTagInBody
      rw [hopened]
      rfl
    dsimp only
    rw [hname, hend]

end InBoxes

/-! ### Reading text -/

/-- Reading the text `s` leads from the state `b` to the state `b'`, where it goes on with `rest`.
    The element before and the fuel do not matter. -/
def Reaches (b b' : Builder) (s rest : List Char) : Prop :=
  ∀ n element, (s ++ rest).length ≤ n → ∃ n' element', rest.length ≤ n' ∧
    readText n .data element b (s ++ rest) = readText n' .data element' b' rest

namespace Reaches

variable {b b' b'' : Builder} {s t rest : List Char}

/-- Nothing needs to be read to get from `b` to `b`. -/
protected theorem refl : Reaches b b [] rest :=
  fun n element hn => ⟨n, element, hn, rfl⟩

/-- The text `t` may be read after `s`. -/
protected theorem trans (h : Reaches b b' s (t ++ rest)) (h' : Reaches b' b'' t rest) :
    Reaches b b'' (s ++ t) rest := by
  intro n element hn
  rw [List.append_assoc] at hn ⊢
  obtain ⟨n₁, element₁, hn₁, h₁⟩ := h n element hn
  obtain ⟨n₂, element₂, hn₂, h₂⟩ := h' n₁ element₁ hn₁
  exact ⟨n₂, element₂, hn₂, h₁.trans h₂⟩

/-- Some `tokens` are read, and then what stands behind them. -/
theorem step (hmode : b.mode ≠ .text) (hforeign : b.inForeign = false) {c : Char}
    {tokens : List Token}
    (hlex : ∀ element, lex .data element false c (s ++ rest) = ⟨tokens, .data, t ++ rest⟩)
    (hlength : t.length ≤ s.length) (hlexing : (tokens.foldl read b).lexing = none)
    (h : Reaches (tokens.foldl read b) b' t rest) : Reaches b b' (c :: s) rest := by
  have hends : tokens.any b.endsScript = false := by
    rw [List.any_eq_false]
    intro token _
    cases token with
    | endTag tag => simp [endsScript, hmode]
    | doctype | startTag | comment | char | fault | ending => simp [endsScript]
  intro n element hn
  rw [List.cons_append, List.length_cons, List.length_append] at hn
  obtain ⟨n, rfl⟩ : ∃ m, n = m + 1 := ⟨n - 1, by omega⟩
  have hstep : ∃ element', readText (n + 1) .data element b (c :: s ++ rest) =
      readText n .data element' (tokens.foldl read b) (t ++ rest) := by
    constructor
    rw [List.cons_append, readText]
    simp only [hforeign, hlex, hends, hlexing, Bool.false_eq_true, if_false, Option.getD_none,
      ite_self]
    rfl
  obtain ⟨element', hstep⟩ := hstep
  rw [hstep]
  exact h n element' (by rw [List.length_append]; omega)

end Reaches

/-- What is cut out of a text in front of a tag are the characters that it is decoded to: a
    reference, a line end or a plain character `c` at a time. -/
theorem exists_lex_text {c : Char} (hc : c ≠ '<') (s rest : List Char) :
    ∃ (faulty : Bool) (cs : List Char) (skip : Nat), skip ≤ s.length ∧
      decode .text id 0 (c :: s) = cs ++ decode .text id skip s ∧
      ∀ element, lex .data element false c (s ++ '<' :: rest) =
        ⟨(if faulty then [.fault] else []) ++ charTokens cs, .data,
          s.drop skip ++ '<' :: rest⟩ := by
  by_cases hamp : c = '&'
  · subst hamp
    -- a reference, which ends in front of the tag
    have hle := readReference_length_le .text s
    refine ⟨(readReference .text s).unterminated, (readReference .text s).characters,
      (readReference .text s).length, hle, rfl, fun element => ?_⟩
    show lexReference .data (s ++ '<' :: rest) = _
    rw [lexReference, readReference_append (by decide), List.drop_append_of_le_length hle]
  · by_cases hreturn : c = '\r'
    · subst hreturn
      have hfeed : (s ++ '<' :: rest).head? = some '\n' ↔ s.head? = some '\n' :=
        head?_drop_append_eq_some (n := 0) rest (Nat.zero_le _) (by decide)
      -- a carriage return, which takes a line feed along
      have hle := lineFeed_le_length s
      refine ⟨false, ['\n'], if s.head? = some '\n' then 1 else 0, hle, rfl, fun element => ?_⟩
      rw [lex, readChar, if_pos rfl]
      simp only [hfeed]
      rw [if_neg (by decide), if_neg (by decide)]
      split
      · rename_i hhead
        rw [if_pos hhead] at hle
        rw [List.drop_append_of_le_length hle]
        rfl
      · rfl
    · refine ⟨false, [c], 0, Nat.zero_le _, ?_, fun element => ?_⟩
      · rw [decode]
        simp only [if_neg hamp, if_neg hreturn]
        rfl
      · rw [lex, readChar, if_neg hreturn]
        simp only [if_neg hc, if_neg hamp]
        rfl

/-- The text `cs'` may be written behind `cs`. -/
theorem Wrote.trans {b b' b'' : Builder} {p : Nat} {cs cs' : List Char} (h : Wrote b b' p cs)
    (h' : Wrote b' b'' p cs') : Wrote b b'' p (cs ++ cs') where
  inBoxes := h'.inBoxes
  opened := h'.opened.trans h.opened
  store := by rw [h'.store, h.store, List.foldl_append]

/-- **A text in front of a tag is written as it is decoded:** `textOf s` is added to the innermost
    open element. -/
theorem exists_wrote {b : Builder} (hb : b.InBoxes) {o : Open} {outer : List Open}
    (hopened : b.opened = o :: outer) {s : List Char} (hs : '<' ∉ s) (rest : List Char) :
    ∃ b', Wrote b b' o.slot (textOf s) ∧ Reaches b b' s ('<' :: rest) := by
  induction hlength : s.length using Nat.strong_induction_on generalizing b s with
  | _ n ih =>
  subst hlength
  cases s with
  | nil => exact ⟨b, ⟨hb, rfl, rfl⟩, .refl⟩
  | cons c s =>
    rw [List.mem_cons, not_or] at hs
    obtain ⟨faulty, cs, skip, hskip, hdecode, hlex⟩ := exists_lex_text (Ne.symm hs.1) s rest
    -- a fault is noted and changes nothing
    have hread : ((if faulty then [Token.fault] else []) ++ charTokens cs).foldl read b =
        (charTokens cs).foldl read b := by
      rw [List.foldl_append]
      cases faulty with
      | false => rfl
      | true => rw [if_pos rfl, List.foldl_cons, hb.read_fault, List.foldl_nil]
    have hfirst := hb.read_chars hopened cs
    obtain ⟨b', hwrote, hreaches⟩ := ih (s.drop skip).length
      (by rw [List.length_drop, List.length_cons]; omega) hfirst.inBoxes
      (hfirst.opened.trans hopened) (fun hmem => hs.2 (List.mem_of_mem_drop hmem)) rfl
    have htext : textOf (c :: s) = cs.filter (· ≠ '\x00') ++ textOf (s.drop skip) := by
      rw [textOf, hdecode, List.filter_append, decode_eq .text id skip]
      rfl
    refine ⟨b', htext ▸ hfirst.trans hwrote, ?_⟩
    refine .step (by rw [hb.mode]; decide) hb.inForeign hlex
      (by rw [List.length_drop]; omega) ?_ ?_
    · rw [hread]
      exact hfirst.inBoxes.lexing
    · rw [hread]
      exact hreaches

end Builder

/-! ### Boxes -/

/-- An element as it is written: its start tag, what is in it, `inner`, and its end tag. -/
def boxText (tag : BoxTag) (inner : List Char) : List Char :=
  tag.write ++ inner ++ endTagText tag.name

namespace Flow

/-- Text with boxes in it as it is written, from its runs of characters and its tags. -/
def write : Flow Run BoxTag → List Char
  | text run => run.chars
  | element before tag inner after => before.chars ++ boxText tag inner.write ++ after.write

/-- What `x` says: each text and each tag as it is read. -/
def decoded (x : Flow Run BoxTag) : Flow (List Char) Element :=
  x.map (fun run => textOf run.chars) fun tag => tag.read.element

/-- The trees for text with elements in it; a text that is empty makes none. -/
def nodes : Flow (List Char) Element → List Node
  | text t => textNodes t
  | element before e inner after => textNodes before ++ .element e inner.nodes :: after.nodes

end Flow

/-- Reading the text `s`, behind which `rest` stands, adds the trees `nodes` at the end of the
    innermost open slot, wherever no text stands at its end. -/
def Builds (s rest : List Char) (nodes : List Node) : Prop :=
  ∀ (b : Builder) (o : Open) (outer : List Open), b.InBoxes → b.opened = o :: outer →
    o.slot < b.store.slots.size → b.store.endsInText o.slot = false →
    ∃ b' ns, b'.InBoxes ∧ b'.opened = b.opened ∧ Grown b.store b'.store o.slot ns nodes ∧
      b.Reaches b' s rest

/-- A new element has no text at its end, so its slot does not end in one. -/
theorem Store.not_endsInText_new {s : Store} {p : Nat} (hp : p < s.slots.size) (item : Item) :
    (s.addChild p item).endsInText s.slots.size = false := by
  rw [endsInText, childrenOf, slot?_addChild_new hp]
  rfl

/-- Nor has a slot `p` that ends in an element. -/
theorem Grown.not_endsInText {s s' : Store} {p n : Nat} {e : Element} {inner : List Node}
    (h : Grown s s' p [n] [.element e inner]) : s'.endsInText p = false := by
  obtain ⟨slot, hslot, hitem⟩ : ∃ slot, s'.slot? n = some slot ∧ slot.item = .element e := by
    cases h.shows with
    | element hlow hslot hitem => exact ⟨_, hslot, hitem⟩
  rw [Store.endsInText, h.childrenOf]
  show s'.isText n = false
  rw [Store.isText, hslot, Option.map_some, hitem]

/-- The start tag `tag` leads to the state `b'` that its token leads to. -/
theorem Builder.reaches_start {b b' : Builder} (hmode : b.mode ≠ .text)
    (hforeign : b.inForeign = false) (tag : BoxTag) (hread : b.read (.startTag tag.read) = b')
    (hlexing : b'.lexing = none) (rest : List Char) : b.Reaches b' tag.write rest := by
  have hlex : ∀ element, lex .data element false '<' ((tag.inside ++ ['>']) ++ rest) =
      ⟨[.startTag tag.read], .data, [] ++ rest⟩ := by
    intro element
    rw [List.append_assoc]
    exact tag.lex_start element rest
  subst hread
  exact .step hmode hforeign hlex (Nat.zero_le _) hlexing .refl

/-- The end tag of `tag` leads to the state without its element. -/
theorem Builder.InBoxes.reaches_end {b : Builder} (hb : b.InBoxes) (tag : BoxTag) {n : Nat}
    {outer : List Open} (hopened : b.opened = ⟨n, .html, String.ofList tag.name⟩ :: outer)
    (rest : List Char) : b.Reaches { b with opened := outer } (endTagText tag.name) rest := by
  have hlex : ∀ element, lex .data element false '<' (('/' :: tag.name ++ ['>']) ++ rest) =
      ⟨[.endTag { name := String.ofList tag.name }], .data, [] ++ rest⟩ := by
    intro element
    rw [List.append_assoc]
    exact tag.lex_end element rest
  have hlexing : (b.read (.endTag { name := String.ofList tag.name })).lexing = none := by
    rw [hb.read_end tag hopened]
    exact hb.lexing
  rw [← hb.read_end tag hopened]
  exact .step (by rw [hb.mode]; decide) hb.inForeign hlex (Nat.zero_le _) hlexing .refl

/-- **A box adds its element.** Its start tag may be read in the state `b` by other rules, which do
    what those for the body do in the state `b₀`. -/
theorem exists_reaches_box {b b₀ : Builder} (hmode : b.mode ≠ .text)
    (hforeign : b.inForeign = false) {tag : BoxTag}
    (hread : b.read (.startTag tag.read) = b₀.openTag tag.read) (hb₀ : b₀.InBoxes) {o : Open}
    {outer : List Open} (hopened : b₀.opened = o :: outer) (hp : o.slot < b₀.store.slots.size)
    {inner : List Char} {nodes : List Node} (hinner : ∀ rest, Builds inner ('<' :: rest) nodes)
    (rest : List Char) : ∃ b', b'.InBoxes ∧ b'.opened = b₀.opened ∧
      Grown b₀.store b'.store o.slot [b₀.store.slots.size] [.element tag.read.element nodes] ∧
      b.Reaches b' (boxText tag inner) rest := by
  obtain ⟨hb₁, hopened₁, hstore₁⟩ := hb₀.openTag hopened tag
  have hslot : b₀.store.slots.size < (b₀.openTag tag.read).store.slots.size := by
    rw [hstore₁, Store.size_addChild]
    exact Nat.lt_succ_self _
  have hempty : (b₀.openTag tag.read).store.endsInText b₀.store.slots.size = false := by
    rw [hstore₁]
    exact Store.not_endsInText_new hp _
  obtain ⟨b₂, ns, hb₂, hopened₂, hgrown, hreaches⟩ :=
    hinner ('/' :: tag.name ++ ['>'] ++ rest) _ _ _ hb₁ hopened₁ hslot hempty
  rw [hopened₁] at hopened₂
  rw [hstore₁] at hgrown
  have hb₃ : ({ b₂ with opened := b₀.opened } : Builder).InBoxes :=
    ⟨hb₂.mode, hb₂.formatting, hb₂.fostering, hb₂.skipNewline, hb₂.lexing, hb₀.opened⟩
  refine ⟨{ b₂ with opened := b₀.opened }, hb₃, rfl, hgrown.inside hp rfl, ?_⟩
  have hstart := Builder.reaches_start hmode hforeign tag hread hb₁.lexing
    (inner ++ (endTagText tag.name ++ rest))
  have hend := hb₂.reaches_end tag hopened₂ rest
  refine .trans (.trans ?_ hreaches) hend
  exact hstart

/-- **Text with boxes in it adds what it says,** `x.decoded`, whatever tag stands behind it. -/
theorem builds_flow (x : Flow Run BoxTag) (rest : List Char) :
    Builds x.write ('<' :: rest) x.decoded.nodes := by
  induction x generalizing rest with
  | text run =>
    intro b o outer hb hopened hp hend
    obtain ⟨b', hwrote, hreaches⟩ := b.exists_wrote hb hopened run.plain rest
    obtain ⟨ns, hgrown⟩ := grown_appendChars hp hend (textOf run.chars)
    exact ⟨b', ns, hwrote.inBoxes, hwrote.opened, hwrote.store ▸ hgrown, hreaches⟩
  | element before tag inner after ihInner ihAfter =>
    intro b o outer hb hopened hp hend
    -- the text in front of the box, the box, and what follows, one after the other
    obtain ⟨b₁, hwrote, hreaches₁⟩ := Builder.exists_wrote hb hopened before.plain
      (tag.inside ++ ['>'] ++
        (inner.write ++ (endTagText tag.name ++ (after.write ++ '<' :: rest))))
    obtain ⟨ns, hgrown₁⟩ := grown_appendChars hp hend (textOf before.chars)
    rw [← hwrote.store] at hgrown₁
    have hb₁ := hwrote.inBoxes
    obtain ⟨b₂, hb₂, hopened₂, hgrown₂, hreaches₂⟩ := exists_reaches_box
      (by rw [hb₁.mode]; decide) hb₁.inForeign (hb₁.read_start tag) hb₁
      (hwrote.opened.trans hopened) hgrown₁.lt_size ihInner (after.write ++ '<' :: rest)
    obtain ⟨b₃, ns', hb₃, hopened₃, hgrown₃, hreaches₃⟩ := ihAfter rest b₂ o outer hb₂
      (hopened₂.trans (hwrote.opened.trans hopened)) hgrown₂.lt_size hgrown₂.not_endsInText
    refine ⟨b₃, _, hb₃, hopened₃.trans (hopened₂.trans hwrote.opened),
      (hgrown₁.trans (hgrown₂.trans hgrown₃)), ?_⟩
    have hwritten : (Flow.element before tag inner after).write =
        before.chars ++ (boxText tag inner.write ++ after.write) :=
      List.append_assoc _ _ _
    rw [hwritten]
    refine .trans ?_ (.trans hreaches₂ hreaches₃)
    have htext : boxText tag inner.write ++ after.write ++ '<' :: rest = '<' :: (tag.inside ++
        ['>'] ++ (inner.write ++ (endTagText tag.name ++ (after.write ++ '<' :: rest)))) := by
      simp [boxText, BoxTag.write]
    rw [htext]
    exact hreaches₁

/-- The state in which `parseFragment` begins: the root is open, and no rules are chosen yet. -/
def fragmentStart : Builder :=
  ((Builder.openRoot
    { store := (({} : Store).create .root).1
      fragment := true
      templateModes := [.inTemplate] } { name := "html" }).resetMode)

/-- The state that the first start tag makes of `fragmentStart`: the rules for the body are in
    force. -/
def fragmentBody : Builder :=
  { fragmentStart with mode := .inBody, templateModes := [.inBody] }

/-- The state `fragmentBody` is one in which boxes can be read. -/
theorem inBoxes_fragmentBody : fragmentBody.InBoxes :=
  ⟨rfl, rfl, rfl, rfl, rfl, by decide⟩

/-- The first box `t` puts the rules for the body in force and is read by them. -/
theorem read_fragmentStart (t : BoxTag) :
    fragmentStart.read (.startTag t.read) = fragmentBody.openTag t.read := by
  have hleft : fragmentStart.step (.startTag t.read) = .left fragmentBody := by
    show (if Rules.headNames.contains (String.ofList t.name) then _ else
      Outcome.left { fragmentStart with
        mode := Rules.contentMode (String.ofList t.name)
        templateModes := [Rules.contentMode (String.ofList t.name)] }) = _
    rcases t.isBox with h | h <;> rw [h] <;> rfl
  have htaken : fragmentBody.step (.startTag t.read) = .taken (fragmentBody.openTag t.read) := by
    rw [inBoxes_fragmentBody.step_eq, inBoxes_fragmentBody.inBody_start]
  show Builder.steps (.startTag t.read) (34 + 1 + 1) fragmentStart = _
  rw [Builder.steps, hleft]
  dsimp only
  rw [Builder.steps, htaken]

/-- **A box is read as the element that was written,** that of `tag` around `x`, with its texts and
    values decoded and nothing repaired. -/
theorem parseFragment_boxText (tag : BoxTag) (x : Flow Run BoxTag) :
    parseFragment (String.ofList (boxText tag x.write)) =
      [.element tag.read.element x.decoded.nodes] := by
  obtain ⟨b, hb, -, hgrown, hreaches⟩ := exists_reaches_box (b := fragmentStart)
    (by decide) rfl (read_fragmentStart tag) inBoxes_fragmentBody (o := ⟨1, .html, "html"⟩) rfl
    (by decide) (builds_flow x) []
  have hread : fragmentStart.readAll (String.ofList (boxText tag x.write)) = b := by
    obtain ⟨n, element, -, hreached⟩ := hreaches (boxText tag x.write).length ""
      (by rw [List.append_nil])
    have hmark : Builder.dropMark (boxText tag x.write) = boxText tag x.write := rfl
    have hend : Builder.readText n .data element b [] = b.read .ending := by
      cases n <;> rfl
    rw [List.append_nil, hend, hb.read_ending] at hreached
    unfold Builder.readAll
    rw [String.toList_ofList, hmark]
    exact hreached
  have hparse : parseFragment (String.ofList (boxText tag x.write)) = b.store.children 1 := by
    rw [← hread]
    rfl
  obtain ⟨levels, hlevels⟩ : ∃ levels, b.store.slots.size = levels + 1 :=
    ⟨b.store.slots.size - 1, by have := hgrown.lt_size; omega⟩
  have hchildren : b.store.childrenOf 1 = [2] := hgrown.childrenOf
  rw [hparse, Store.children, hlevels, Store.childTrees_succ, hchildren]
  exact hgrown.shows.filterMap_tree? (by
    have hsize : fragmentBody.store.slots.size = 2 := rfl
    omega)

end PagePatch.Html
