import PagePatch.Proofs.Xml.CharacterData

namespace PagePatch.Xml

/-!
# Documents as they are written

Text, character data, comments, processing instructions and elements in any order are read as what
was written. Comments and processing instructions leave no trace.

* `Aside` — a comment or processing instruction;
* `Content` — what stands in an element;
* `Adds` — what a text adds to the open element, and `adds_content` — content adds what was written;
* `Content.elements_addTo` — the elements that it adds;
* `Document`, `parse_write` — a whole document.
-/

/-! ### Comments and processing instructions -/

/-- Markup that leaves no trace: its characters `s` must not have its own end in them. -/
inductive Aside where
  /-- A comment. -/
  | comment (s : List Char) (h : ¬ ['-', '-', '>'] <:+: s := by decide)
  /-- A processing instruction, or the declaration at the front of a document. -/
  | instruction (s : List Char) (h : ¬ ['?', '>'] <:+: '?' :: s := by decide)

/-- The markup of an `Aside` as it is written. -/
def Aside.write : Aside → List Char
  | .comment s _ => '<' :: '!' :: '-' :: '-' :: s ++ ['-', '-', '>']
  | .instruction s _ => '<' :: '?' :: s ++ ['?', '>']

/-- In a comment the scanner reads on at each character of a text `s` without `-->`. The text read
    so far, `before`, cannot end in `--` where the character `c` behind it is `>`. -/
theorem step_comment {s before after : List Char} {c : Char} (h : ¬ ['-', '-', '>'] <:+: s)
    (hs : s = before ++ c :: after) (start pos : Nat) :
    step (.comment (before.reverse ++ [])) start pos c =
      .ok (.comment (c :: (before.reverse ++ [])), none) := by
  unfold step
  simp only
  split
  · rename_i inside hread
    have hbefore : before = inside.reverse ++ ['-', '-'] := by
      rw [List.append_nil, List.reverse_eq_iff] at hread
      simpa using hread
    exact absurd ⟨inside.reverse, after, by rw [hs, hbefore]; simp⟩ h
  · rfl

/-- In an instruction the scanner reads on at each character of a text `s` without `?>`. An
    instruction that begins with `>` is excluded too, as its `?` is the one in front of `s`. -/
theorem step_instruction {s before after : List Char} {c : Char} (h : ¬ ['?', '>'] <:+: '?' :: s)
    (hs : s = before ++ c :: after) (start pos : Nat) :
    step (.instruction (before.reverse ++ [])) start pos c =
      .ok (.instruction (c :: (before.reverse ++ [])), none) := by
  rw [List.append_nil]
  unfold step
  simp only
  split
  · rename_i hend
    subst hend
    split
    · rename_i hread
      rw [List.reverse_eq_nil_iff.mp hread] at hs
      exact absurd ⟨[], after, by rw [hs]; rfl⟩ h
    · rename_i inside hread
      have hbefore : before = inside.reverse ++ ['?'] := by
        rw [List.reverse_eq_iff] at hread
        simpa using hread
      exact absurd ⟨'?' :: inside.reverse, after, by rw [hs, hbefore]; simp⟩ h
    · rfl
  · rfl

/-- The scanner passes over a comment, and is in a text again behind its `-->`. -/
theorem scanFrom_comment {s : List Char} (h : ¬ ['-', '-', '>'] <:+: s) (start pos : Nat)
    (rest : List Char) : ∃ start' pos',
    scanFrom (.text []) start pos ((Aside.comment s h).write ++ rest) =
      scanFrom (.text []) start' pos' rest := by
  obtain ⟨pos', heq⟩ := scanFrom_gather .comment nofun s [] (fun _ _ _ => step_comment h) pos
    (pos + '<'.utf8Size + '!'.utf8Size + '-'.utf8Size + '-'.utf8Size) ('-' :: '-' :: '>' :: rest)
  have hopen : scanFrom (.text []) start pos ((Aside.comment s h).write ++ rest) =
      scanFrom (.comment []) pos
        (pos + '<'.utf8Size + '!'.utf8Size + '-'.utf8Size + '-'.utf8Size)
        (s ++ '-' :: '-' :: '>' :: rest) := by
    simp only [Aside.write, List.cons_append, List.append_assoc, List.nil_append]
    rfl
  refine ⟨pos, pos' + '-'.utf8Size + '-'.utf8Size + '>'.utf8Size, ?_⟩
  rw [hopen, heq]
  rfl

/-- The scanner passes over a processing instruction, and is in a text again behind its `?>`. -/
theorem scanFrom_instruction {s : List Char} (h : ¬ ['?', '>'] <:+: '?' :: s) (start pos : Nat)
    (rest : List Char) : ∃ start' pos',
    scanFrom (.text []) start pos ((Aside.instruction s h).write ++ rest) =
      scanFrom (.text []) start' pos' rest := by
  obtain ⟨pos', heq⟩ := scanFrom_gather .instruction nofun s [] (fun _ _ _ => step_instruction h)
    pos (pos + '<'.utf8Size + '?'.utf8Size) ('?' :: '>' :: rest)
  have hopen : scanFrom (.text []) start pos ((Aside.instruction s h).write ++ rest) =
      scanFrom (.instruction []) pos (pos + '<'.utf8Size + '?'.utf8Size)
        (s ++ '?' :: '>' :: rest) := by
    simp only [Aside.write, List.cons_append, List.append_assoc, List.nil_append]
    rfl
  refine ⟨pos, pos' + '?'.utf8Size + '>'.utf8Size, ?_⟩
  rw [hopen, heq]
  rfl

/-- **The scanner passes over what leaves no trace**: in front of the `rest` it is in an empty text
    again, without an event in between. -/
theorem scanFrom_aside (a : Aside) (start pos : Nat) (rest : List Char) : ∃ start' pos',
    scanFrom (.text []) start pos (a.write ++ rest) = scanFrom (.text []) start' pos' rest := by
  cases a with
  | comment s h => exact scanFrom_comment h start pos rest
  | instruction s h => exact scanFrom_instruction h start pos rest

/-! ### What stands in an element -/

/-- What stands in an element: text, with markup in it. Each constructor but `text` has a run in
    front and goes on with `after`. -/
inductive Content where
  /-- Text alone. -/
  | text (run : Run)
  /-- Text, character data and what follows. -/
  | cdata (before : Run) (data : List Char) (after : Content)
  /-- Text, a comment or processing instruction and what follows. -/
  | aside (before : Run) (a : Aside) (after : Content)
  /-- Text, an element that is closed at once and what follows. -/
  | single (before : Run) (tag : Tag) (after : Content)
  /-- Text, an element and what follows. -/
  | element (before : Run) (tag : Tag) (inner after : Content)

/-- The end tag for `name`. -/
def endTagText (name : List Char) : List Char :=
  '<' :: '/' :: name ++ ['>']

namespace Content

/-- What stands in an element, as it is written, one piece after the other. -/
def write : Content → List Char
  | text run => run.chars
  | cdata before data after => before.chars ++ cdataText data ++ after.write
  | aside before a after => before.chars ++ a.write ++ after.write
  | single before tag after => before.chars ++ ('<' :: tag.inside ++ ['/', '>']) ++ after.write
  | element before tag inner after =>
    before.chars ++ ('<' :: tag.inside ++ ['>']) ++ inner.write ++ endTagText tag.name ++
      after.write

/-- What it adds to the element `e` that it stands in. -/
def addTo : Content → Element → Element
  | text run, e => run.addTo e
  | cdata before data after, e => after.addTo ((before.addTo e).addText (String.ofList data))
  | aside before _ after, e => after.addTo (before.addTo e)
  | single before tag after, e => after.addTo ((before.addTo e).addChild tag.element.toNode)
  | element before tag inner after, e =>
    after.addTo ((before.addTo e).addChild (inner.addTo tag.element).toNode)

/-- The elements among what stands in an element, in order, without those further down;
    `Element.elements` of what is read gives the same. -/
def elements : Content → List Element
  | text _ => []
  | cdata _ _ after | aside _ _ after => after.elements
  | single _ tag after => tag.element :: after.elements
  | element _ tag inner after => inner.addTo tag.element :: after.elements

end Content

/-- The text `s` is added to the children alone, and leaves the attributes. -/
theorem Element.addText_attributes (e : Element) (s : String) :
    (e.addText s).attributes = e.attributes := by
  unfold Element.addText
  split <;> rfl

/-- A `run` of text changes neither the name nor the attributes of the element that it stands in. -/
theorem Run.addTo_tag (run : Run) (e : Element) :
    (run.addTo e).name = e.name ∧ (run.addTo e).attributes = e.attributes := by
  unfold Run.addTo
  split
  · exact ⟨rfl, rfl⟩
  · exact ⟨e.addText_name _, e.addText_attributes _⟩

/-- Nor does anything else, `c`, that stands in an element. -/
theorem Content.addTo_tag (c : Content) (e : Element) :
    (c.addTo e).name = e.name ∧ (c.addTo e).attributes = e.attributes := by
  induction c generalizing e with
  | text run => exact run.addTo_tag e
  | cdata before data after ih =>
    rw [addTo, (ih _).1, (ih _).2, Element.addText_name, Element.addText_attributes]
    exact before.addTo_tag e
  | aside before a after ih =>
    rw [addTo, (ih _).1, (ih _).2]
    exact before.addTo_tag e
  | single before tag after ih =>
    rw [addTo, (ih _).1, (ih _).2]
    exact before.addTo_tag e
  | element before tag inner after _ ih =>
    rw [addTo, (ih _).1, (ih _).2]
    exact before.addTo_tag e

/-- The name, which `c` leaves as it is. -/
theorem Content.addTo_name (c : Content) (e : Element) : (c.addTo e).name = e.name :=
  (c.addTo_tag e).1

/-- The attributes, which `c` leaves as they are. -/
theorem Content.addTo_attributes (c : Content) (e : Element) :
    (c.addTo e).attributes = e.attributes :=
  (c.addTo_tag e).2

/-- An element that is closed at once is added to the one around it, `e`, and none is left open. -/
theorem run_single (tag : Tag) (e : Element) (outer : List Element) (root : Option Element)
    (start pos : Nat) (rest : List Char) : ∃ start' pos',
    Reading.run ⟨e :: outer, root⟩
        (scanFrom (.text []) start pos ('<' :: tag.inside ++ '/' :: '>' :: rest)) =
      Reading.run ⟨e.addChild tag.element.toNode :: outer, root⟩
        (scanFrom (.text []) start' pos' rest) := by
  obtain ⟨start', pos', htag⟩ := scanFrom_singleTag tag start pos rest
  refine ⟨start', pos', ?_⟩
  rw [htag, Reading.run]
  simp only [Reading.step, tag.ofTag_inside]
  rfl

/-- The start tag `tag` opens its element, which is the innermost one then. -/
theorem run_startTag (tag : Tag) (r : Reading) (start pos : Nat) (rest : List Char) :
    ∃ start' pos',
    Reading.run r (scanFrom (.text []) start pos ('<' :: tag.inside ++ '>' :: rest)) =
      Reading.run { r with stack := tag.element :: r.stack }
        (scanFrom (.text []) start' pos' rest) := by
  obtain ⟨start', pos', htag⟩ := scanFrom_startTag tag start pos rest
  refine ⟨start', pos', ?_⟩
  rw [htag, Reading.run]
  simp only [Reading.step, tag.ofTag_inside]
  rfl

/-- An end tag of the innermost open element `inner` adds it to the one around it, `e`. The name
    must be the name of the element. -/
theorem run_endTag {name : List Char} (hname : IsName name) {inner : Element}
    (hinner : inner.name = String.ofList name) (e : Element) (outer : List Element)
    (root : Option Element) (start pos : Nat) (rest : List Char) : ∃ start' pos',
    Reading.run ⟨inner :: e :: outer, root⟩
        (scanFrom (.text []) start pos (endTagText name ++ rest)) =
      Reading.run ⟨e.addChild inner.toNode :: outer, root⟩
        (scanFrom (.text []) start' pos' rest) := by
  obtain ⟨start', pos', position, htag⟩ := scanFrom_endTag hname start pos rest
  refine ⟨start', pos', ?_⟩
  have htext : endTagText name ++ rest = '<' :: '/' :: name ++ '>' :: rest := by
    simp [endTagText]
  rw [htext, htag, Reading.run]
  simp only [Reading.step, hinner, if_true]
  rfl

/-- Reading the text `s`, behind which `rest` stands, makes of the innermost open element `e` the
    element `f e`, and leaves those around it. -/
def Adds (s : List Char) (f : Element → Element) (rest : List Char) : Prop :=
  ∀ (e : Element) (outer : List Element) (root : Option Element) (start pos : Nat),
    ∃ start' pos', Reading.run ⟨e :: outer, root⟩ (scanFrom (.text []) start pos (s ++ rest)) =
      Reading.run ⟨f e :: outer, root⟩ (scanFrom (.text []) start' pos' rest)

/-- **Composition.** The text `s` is read, and then `t` behind it. -/
theorem Adds.append {s t rest : List Char} {f g : Element → Element} (hs : Adds s f (t ++ rest))
    (ht : Adds t g rest) : Adds (s ++ t) (fun e => g (f e)) rest := by
  intro e outer root start pos
  obtain ⟨start₁, pos₁, hfirst⟩ := hs e outer root start pos
  obtain ⟨start₂, pos₂, hsecond⟩ := ht (f e) outer root start₁ pos₁
  refine ⟨start₂, pos₂, ?_⟩
  rw [List.append_assoc, hfirst, hsecond]

/-- The text of `run` in front of markup is added. -/
theorem adds_run (run : Run) {rest : List Char} (hrest : ∃ tail, rest = '<' :: tail) :
    Adds run.chars run.addTo rest :=
  fun e outer root start pos => run_text run e outer root start pos rest hrest

/-- Character data is added as the text `data` that it stands for. -/
theorem adds_cdata (data rest : List Char) :
    Adds (cdataText data) (·.addText (String.ofList data)) rest :=
  fun e outer root start pos => run_cdataText data e outer root start pos rest

/-- The comment or processing instruction `a` adds nothing. -/
theorem adds_aside (a : Aside) (rest : List Char) : Adds a.write id rest := by
  intro e outer root start pos
  obtain ⟨start', pos', haside⟩ := scanFrom_aside a start pos rest
  exact ⟨start', pos', by rw [haside, id]⟩

/-- An element of `tag` that is closed at once is added. -/
theorem adds_single (tag : Tag) (rest : List Char) :
    Adds ('<' :: tag.inside ++ ['/', '>']) (·.addChild tag.element.toNode) rest := by
  intro e outer root start pos
  rw [List.append_assoc]
  exact run_single tag e outer root start pos rest

/-- An element of `tag` is added with `inner`, what stands in it, which is read with the element on
    top of those around it. -/
theorem adds_element (tag : Tag) {inner : Content} {rest : List Char}
    (hinner : Adds inner.write inner.addTo (endTagText tag.name ++ rest)) :
    Adds ('<' :: tag.inside ++ ['>'] ++ inner.write ++ endTagText tag.name)
      (·.addChild (inner.addTo tag.element).toNode) rest := by
  intro e outer root start pos
  obtain ⟨start₁, pos₁, hopen⟩ := run_startTag tag ⟨e :: outer, root⟩ start pos
    (inner.write ++ (endTagText tag.name ++ rest))
  obtain ⟨start₂, pos₂, hcontent⟩ := hinner tag.element (e :: outer) root start₁ pos₁
  obtain ⟨start₃, pos₃, hend⟩ := run_endTag tag.isName (inner.addTo_name tag.element) e outer root
    start₂ pos₂ rest
  refine ⟨start₃, pos₃, ?_⟩
  have htext : '<' :: tag.inside ++ ['>'] ++ inner.write ++ endTagText tag.name ++ rest =
      '<' :: tag.inside ++ '>' :: (inner.write ++ (endTagText tag.name ++ rest)) := by
    simp
  rw [htext, hopen, hcontent, hend]

/-- **Reading what stands in an element adds it to the element.** What stands behind `c` begins with
    markup, at which the last text in it ends. -/
theorem adds_content (c : Content) {rest : List Char} (hrest : ∃ tail, rest = '<' :: tail) :
    Adds c.write c.addTo rest := by
  induction c generalizing rest with
  | text run => exact adds_run run hrest
  | cdata before data after ih =>
    exact ((adds_run before ⟨_, rfl⟩).append (adds_cdata data _)).append (ih hrest)
  | aside before a after ih =>
    exact ((adds_run before (by cases a <;> exact ⟨_, rfl⟩)).append (adds_aside a _)).append
      (ih hrest)
  | single before tag after ih =>
    exact ((adds_run before ⟨_, rfl⟩).append (adds_single tag _)).append (ih hrest)
  | element before tag inner after ihInner ihAfter =>
    have hinner : Adds inner.write inner.addTo (endTagText tag.name ++ (after.write ++ rest)) :=
      ihInner ⟨_, rfl⟩
    have helement := adds_element tag hinner
    have hall := ((adds_run before ⟨_, rfl⟩).append helement).append (ihAfter hrest)
    have htext : (Content.element before tag inner after).write = before.chars ++
        ('<' :: tag.inside ++ ['>'] ++ inner.write ++ endTagText tag.name) ++ after.write := by
      simp [Content.write]
    rw [htext]
    exact hall

/-! ### The elements of an element -/

/-- The text `s` is no element, so that the elements of `e` stay when it is added. -/
theorem Element.elements_addText (e : Element) (s : String) :
    (e.addText s).elements = e.elements := by
  unfold Element.addText
  split
  · rename_i before hlast
    have hchildren : e.children = e.children.dropLast ++ [.text before] :=
      (List.dropLast_append_getLast? _ hlast).symm
    conv_rhs => rw [Element.elements, hchildren]
    simp [Element.elements]
  · simp [Element.elements, Element.addChild]

/-- A `child` that is an element is the last one of the elements. -/
theorem Element.elements_addChild (e child : Element) :
    (e.addChild child.toNode).elements = e.elements ++ [child] := by
  simp [Element.elements, Element.addChild, Element.toNode]

/-- The text of `run` adds no element. -/
theorem Run.elements_addTo (run : Run) (e : Element) : (run.addTo e).elements = e.elements := by
  unfold Run.addTo
  split
  · rfl
  · exact e.elements_addText _

/-- **What was written adds its elements,** those of `c`, behind those that are there, in order. -/
theorem Content.elements_addTo (c : Content) (e : Element) :
    (c.addTo e).elements = e.elements ++ c.elements := by
  induction c generalizing e with
  | text run => rw [addTo, Run.elements_addTo, elements, List.append_nil]
  | cdata before data after ih =>
    rw [addTo, ih, Element.elements_addText, Run.elements_addTo, elements]
  | aside before a after ih => rw [addTo, ih, Run.elements_addTo, elements]
  | single before tag after ih =>
    rw [addTo, ih, Element.elements_addChild, Run.elements_addTo, elements, List.append_assoc,
      List.singleton_append]
  | element before tag inner after _ ih =>
    rw [addTo, ih, Element.elements_addChild, Run.elements_addTo, elements, List.append_assoc,
      List.singleton_append]

/-! ### Documents -/

/-- Blank characters, for the places around elements where `Content` has only blanks. -/
structure Blanks where
  /-- The characters. -/
  chars : List Char := []
  /-- All of them are blank. -/
  blank : chars.all Text.isBlank = true := by decide

/-- No blanks, for places where nothing stands. -/
def Blanks.empty : Blanks where
  blank := rfl

/-- Blanks hold none of the characters `c` with a meaning. -/
theorem Blanks.not_mem (b : Blanks) {c : Char} (hc : Text.isBlank c = false) : c ∉ b.chars := by
  intro hmem
  rw [List.all_eq_true.mp b.blank c hmem] at hc
  cases hc

/-- The blanks `b` as text. -/
def Blanks.run (b : Blanks) : Run where
  chars := b.chars
  plain := b.not_mem (by decide)

/-- The blanks `b` are read as they are. -/
theorem Blanks.isBlankText (b : Blanks) :
    Text.isBlankText (String.ofList (unescapeOrRaw b.chars)) = true := by
  rw [unescapeOrRaw, unescape_plain (b.not_mem (by decide)), Option.getD_some, Text.isBlankText,
    String.toList_ofList]
  exact b.blank

/-- A document as it is written: an element, with comments, processing instructions and blanks
    around it. `Document.root` is what it is read as. -/
structure Document where
  /-- What stands in front of the root, each behind blanks. -/
  front : List (Blanks × Aside) := []
  /-- Blanks directly in front of the root. -/
  lead : Blanks := .empty
  /-- The tag of the root. -/
  tag : Tag
  /-- What stands in the root. -/
  content : Content
  /-- What stands behind the root, each behind blanks. -/
  back : List (Blanks × Aside) := []
  /-- Blanks at the end. -/
  tail : Blanks := .empty

/-- Comments and processing instructions around the root, each behind blanks, as they are
    written. -/
def marginText (margin : List (Blanks × Aside)) : List Char :=
  margin.flatMap fun a => a.1.chars ++ a.2.write

namespace Document

/-- The root of `d` from its start tag on to its end tag. -/
def rootText (d : Document) : List Char :=
  '<' :: d.tag.inside ++ '>' :: (d.content.write ++ endTagText d.tag.name)

/-- The document `d` as it is written. -/
def write (d : Document) : List Char :=
  marginText d.front ++ d.lead.chars ++ d.rootText ++ marginText d.back ++ d.tail.chars

/-- The root of `d` as it is read: its element with all that stands in it. -/
def root (d : Document) : Element :=
  d.content.addTo d.tag.element

end Document

/-- Outside the root, the blanks `b` are passed over, be it in front of it or behind it. -/
theorem Reading.addText_blanks (b : Blanks) (root : Option Element) :
    Reading.addText ⟨[], root⟩ (String.ofList (unescapeOrRaw b.chars)) = .ok ⟨[], root⟩ :=
  if_pos b.isBlankText

/-- So `b` is in front of markup. -/
theorem run_blanks (b : Blanks) (root : Option Element) (start pos : Nat) (rest : List Char)
    (hrest : ∃ tail, rest = '<' :: tail) : ∃ start' pos',
    Reading.run ⟨[], root⟩ (scanFrom (.text []) start pos (b.chars ++ rest)) =
      Reading.run ⟨[], root⟩ (scanFrom (.text []) start' pos' rest) := by
  obtain ⟨start', pos', hscan⟩ := scanFrom_run b.run start pos rest hrest
  refine ⟨start', pos', ?_⟩
  have hchars : b.run.chars = b.chars := rfl
  rw [hchars] at hscan
  rw [hscan]
  split
  · rfl
  · rw [Reading.run]
    simp only [Reading.step, Reading.addText_blanks]

/-- And so `b` is at the end. -/
theorem run_tail (b : Blanks) (root : Element) (start pos : Nat) :
    Reading.run ⟨[], some root⟩ (scanFrom (.text []) start pos b.chars) = .ok root := by
  obtain ⟨start', pos', htext⟩ := scanFrom_text b.run.plain [] start pos []
  have hchars : b.run.chars = b.chars := rfl
  rw [hchars, List.append_nil, List.append_nil] at htext
  rw [htext, scanFrom, ending]
  split
  · rfl
  · rw [Reading.run, List.reverse_reverse]
    simp only [Reading.step, Reading.addText_blanks]
    rfl

/-- The comments and processing instructions of `margin` around the root are passed over, with the
    blanks in front of each. -/
theorem run_margin (margin : List (Blanks × Aside)) (root : Option Element) (start pos : Nat)
    (rest : List Char) : ∃ start' pos',
    Reading.run ⟨[], root⟩ (scanFrom (.text []) start pos (marginText margin ++ rest)) =
      Reading.run ⟨[], root⟩ (scanFrom (.text []) start' pos' rest) := by
  induction margin generalizing start pos with
  | nil => exact ⟨start, pos, rfl⟩
  | cons a margin ih =>
    obtain ⟨start₁, pos₁, hblanks⟩ := run_blanks a.1 root start pos
      (a.2.write ++ (marginText margin ++ rest)) (by cases a.2 <;> exact ⟨_, rfl⟩)
    obtain ⟨start₂, pos₂, haside⟩ := scanFrom_aside a.2 start₁ pos₁ (marginText margin ++ rest)
    obtain ⟨start₃, pos₃, hrest⟩ := ih start₂ pos₂
    refine ⟨start₃, pos₃, ?_⟩
    have htext : marginText (a :: margin) ++ rest =
        a.1.chars ++ (a.2.write ++ (marginText margin ++ rest)) := by
      simp [marginText]
    rw [htext, hblanks, haside, hrest]

/-- The root of `d` is complete behind its end tag, and nothing is open then. -/
theorem run_root (d : Document) (start pos : Nat) (rest : List Char) : ∃ start' pos',
    Reading.run {} (scanFrom (.text []) start pos (d.rootText ++ rest)) =
      Reading.run ⟨[], some d.root⟩ (scanFrom (.text []) start' pos' rest) := by
  obtain ⟨start₁, pos₁, hstart⟩ := run_startTag d.tag {} start pos
    (d.content.write ++ (endTagText d.tag.name ++ rest))
  have hadds : Adds d.content.write d.content.addTo (endTagText d.tag.name ++ rest) :=
    adds_content d.content ⟨_, rfl⟩
  obtain ⟨start₂, pos₂, hcontent⟩ := hadds d.tag.element [] none start₁ pos₁
  obtain ⟨start₃, pos₃, position, hend⟩ := scanFrom_endTag d.tag.isName start₂ pos₂ rest
  refine ⟨start₃, pos₃, ?_⟩
  have htext : d.rootText ++ rest = '<' :: d.tag.inside ++
      '>' :: (d.content.write ++ (endTagText d.tag.name ++ rest)) := by
    simp [Document.rootText]
  have hendText : endTagText d.tag.name ++ rest = '<' :: '/' :: d.tag.name ++ '>' :: rest := by
    simp [endTagText]
  have hname : (d.content.addTo d.tag.element).name = String.ofList d.tag.name :=
    d.content.addTo_name _
  rw [htext, hstart, hcontent, hendText, hend, Reading.run]
  simp only [Reading.step]
  rw [if_pos hname]
  rfl

/-- A text `s` that does not begin with a byte order mark is scanned from its front. -/
theorem scan_unmarked {s : List Char} (h : ∀ rest, s ≠ '\ufeff' :: rest) :
    scan s = scanFrom (.text []) 0 0 s := by
  unfold scan
  split
  · rename_i rest
    exact absurd rfl (h rest)
  · rfl

/-- The blanks `b` with markup behind them do not begin with a byte order mark. -/
theorem Blanks.unmarked (b : Blanks) {s : List Char} (hs : ∃ tail, s = '<' :: tail)
    (rest : List Char) : b.chars ++ s ≠ '\ufeff' :: rest := by
  obtain ⟨tail, rfl⟩ := hs
  intro heq
  have hmark : '\ufeff' ∉ b.chars := b.not_mem (by decide)
  cases hchars : b.chars with
  | nil =>
    rw [hchars, List.nil_append] at heq
    exact absurd (List.cons.inj heq).1 (by decide)
  | cons c chars =>
    rw [hchars, List.cons_append] at heq
    rw [hchars, (List.cons.inj heq).1] at hmark
    exact hmark List.mem_cons_self

/-- Nor does the document `d`. -/
theorem Document.write_unmarked (d : Document) (rest : List Char) :
    d.write ≠ '\ufeff' :: rest := by
  cases hfront : d.front with
  | nil =>
    have htext : d.write = d.lead.chars ++ (d.rootText ++ marginText d.back ++ d.tail.chars) := by
      simp [write, hfront, marginText]
    rw [htext]
    exact d.lead.unmarked ⟨_, rfl⟩ rest
  | cons a front =>
    have htext : d.write = a.1.chars ++ (a.2.write ++ (marginText front ++ d.lead.chars ++
        d.rootText ++ marginText d.back ++ d.tail.chars)) := by
      simp [write, hfront, marginText]
    rw [htext]
    exact a.1.unmarked (by cases a.2 <;> exact ⟨_, rfl⟩) rest

/-- **A document is read as what was written,** whatever comments, instructions and blanks stand
    around the root of `d`. -/
theorem parse_write (d : Document) : Element.parse (String.ofList d.write) = .ok d.root := by
  obtain ⟨start₁, pos₁, hfront⟩ := run_margin d.front none 0 0
    (d.lead.chars ++ (d.rootText ++ (marginText d.back ++ d.tail.chars)))
  obtain ⟨start₂, pos₂, hlead⟩ := run_blanks d.lead none start₁ pos₁
    (d.rootText ++ (marginText d.back ++ d.tail.chars)) ⟨_, rfl⟩
  obtain ⟨start₃, pos₃, hroot⟩ := run_root d start₂ pos₂ (marginText d.back ++ d.tail.chars)
  obtain ⟨start₄, pos₄, hback⟩ := run_margin d.back (some d.root) start₃ pos₃ d.tail.chars
  have htext : d.write = marginText d.front ++
      (d.lead.chars ++ (d.rootText ++ (marginText d.back ++ d.tail.chars))) := by
    simp [Document.write]
  rw [Element.parse, String.toList_ofList, scan_unmarked d.write_unmarked, htext]
  calc Reading.run {} _ = _ := hfront
    _ = _ := hlead
    _ = _ := hroot
    _ = _ := hback
    _ = _ := run_tail d.tail d.root start₄ pos₄

end PagePatch.Xml
