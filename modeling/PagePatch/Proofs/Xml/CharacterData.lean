import PagePatch.Proofs.Xml.Tag

namespace PagePatch.Xml

/-!
# Text as it is written

Text is written with the predefined entities, or as character data in which every `]]>` is split.
Either way it is read as what was written.

* `escape` — a text with the predefined entities, `unescapeOrRaw_escape` its reading;
* `Tag.ofStrings` — the tag of given values, whatever characters they hold;
* `Run` — text as it stands between markup;
* `cdataText` — a text as character data, `run_cdataText` its reading.
-/

/-! ### Escaping -/

/-- The character `c`, or the predefined entity for it if there is one. -/
def escapeChar (c : Char) : List Char :=
  match c with
  | '&' => "&amp;".toList
  | '<' => "&lt;".toList
  | '>' => "&gt;".toList
  | '"' => "&quot;".toList
  | '\'' => "&apos;".toList
  | c => [c]

/-- The text `s` with the predefined entities for the characters that mean something. -/
def escape (s : List Char) : List Char :=
  s.flatMap escapeChar

/-- A text `s` without ampersands has no references to replace. -/
theorem unescape_plain {s : List Char} (hs : '&' ∉ s) : unescape none s = some s := by
  induction s with
  | nil => rfl
  | cons c s ih =>
    rw [List.mem_cons, not_or] at hs
    rw [unescape, if_neg (Ne.symm hs.1), ih hs.2]
    rfl

/-- An escaped character `c` is read as the character, and then the `rest` is read. -/
theorem unescape_escapeChar (c : Char) (rest : List Char) :
    unescape none (escapeChar c ++ rest) = (unescape none rest).map (c :: ·) := by
  unfold escapeChar
  split
  · rfl
  · rfl
  · rfl
  · rfl
  · rfl
  · rename_i hamp _ _ _ _
    rw [List.singleton_append, unescape, if_neg hamp]

/-- A text is read as it was if each of its characters `c` is written as something, `f c`, that is
    read as the character. -/
theorem unescapeOrRaw_flatMap {f : Char → List Char}
    (hf : ∀ c rest, unescape none (f c ++ rest) = (unescape none rest).map (c :: ·))
    (s : List Char) : unescapeOrRaw (s.flatMap f) = s := by
  have hall : unescape none (s.flatMap f) = some s := by
    induction s with
    | nil => rfl
    | cons c s ih =>
      rw [List.flatMap_cons, hf, ih]
      rfl
  rw [unescapeOrRaw, hall, Option.getD_some]

/-- **Escaping is undone by reading,** whatever `s` is. -/
theorem unescapeOrRaw_escape (s : List Char) : unescapeOrRaw (escape s) = s :=
  unescapeOrRaw_flatMap unescape_escapeChar s

/-- A character `x` that is left of no character is not left of a text. -/
theorem not_mem_flatMap {x : Char} {f : Char → List Char} (h : ∀ c, x ∉ f c) (s : List Char) :
    x ∉ s.flatMap f := by
  intro hmem
  obtain ⟨c, -, hc⟩ := List.mem_flatMap.mp hmem
  exact h c hc

/-- No quote is left in the escaped text `s`. -/
theorem quote_not_mem_escape (s : List Char) : '"' ∉ escape s := by
  refine not_mem_flatMap (fun c => ?_) s
  unfold escapeChar
  split
  · decide
  · decide
  · decide
  · decide
  · decide
  · rename_i hquote _
    exact fun hmem => hquote (List.mem_singleton.mp hmem).symm

/-- The `keys` that differ are written differently. -/
theorem nodup_toList {keys : List String} (h : keys.Nodup) : (keys.map String.toList).Nodup :=
  List.Pairwise.map String.toList (fun _ _ hne heq => hne (String.toList_inj.mp heq)) h

/-- A tag with the given `name`, keys and values. The values may hold any characters, as they are
    escaped. -/
def Tag.ofStrings (name : String) (attributes : List (String × String))
    (isName : IsName name.toList) (keys : ∀ a ∈ attributes, IsName a.1.toList)
    (distinct : (attributes.map Prod.fst).Nodup) : Tag where
  name := name.toList
  attributes := attributes.map fun a => (a.1.toList, escape a.2.toList)
  isName
  keys := by
    intro a ha
    obtain ⟨b, hb, rfl⟩ := List.mem_map.mp ha
    exact keys b hb
  values := by
    intro a ha
    obtain ⟨b, -, rfl⟩ := List.mem_map.mp ha
    exact quote_not_mem_escape _
  distinct := by
    have hkeys := nodup_toList distinct
    rwa [List.map_map] at hkeys ⊢

/-- The element of such a tag has the values of `attributes`, as they were before they were
    escaped. -/
theorem Tag.element_ofStrings {name : String} {attributes : List (String × String)}
    {isName : IsName name.toList} {keys : ∀ a ∈ attributes, IsName a.1.toList}
    {distinct : (attributes.map Prod.fst).Nodup} :
    (Tag.ofStrings name attributes isName keys distinct).element = ⟨name, attributes, []⟩ := by
  have hvalues : (attributes.map fun a => (a.1.toList, escape a.2.toList)).map
      (fun a => (String.ofList a.1, String.ofList (unescapeOrRaw a.2))) = attributes := by
    rw [List.map_map]
    refine List.map_id'' (fun a => ?_) attributes
    simp only [Function.comp_apply, unescapeOrRaw_escape, String.ofList_toList]
  simp only [Tag.element, Tag.ofStrings, hvalues, String.ofList_toList]

/-! ### Text -/

/-- Text without markup, as it stands between two pieces of markup: `chars` may hold references. -/
structure Run where
  /-- Its characters. -/
  chars : List Char := []
  /-- None of them begins markup. -/
  plain : '<' ∉ chars := by decide

/-- The run of no text, for places where there is none. -/
def Run.empty : Run where
  plain := List.not_mem_nil

/-- What the text adds to the open element `e`: its characters with the references replaced. An
    empty text adds nothing. -/
def Run.addTo (run : Run) (e : Element) : Element :=
  if run.chars.isEmpty then e else e.addText (String.ofList (unescapeOrRaw run.chars))

/-- The text of `run` in front of markup is one event, unless it is empty: then there is none. -/
theorem scanFrom_run (run : Run) (start pos : Nat) (rest : List Char)
    (hrest : ∃ tail, rest = '<' :: tail) : ∃ start' pos',
    scanFrom (.text []) start pos (run.chars ++ rest) =
      if run.chars.isEmpty then scanFrom (.text []) start' pos' rest
      else .more (.text run.chars) (scanFrom (.text []) start' pos' rest) := by
  obtain ⟨tail, rfl⟩ := hrest
  obtain ⟨start', pos', htext⟩ := scanFrom_text run.plain [] start pos ('<' :: tail)
  refine ⟨start', pos', ?_⟩
  rw [htext, List.append_nil]
  cases hchars : run.chars with
  | nil => rfl
  | cons c s =>
    have hne : (c :: s).reverse.isEmpty = false := by simp
    simp only [scanFrom, step, hne, if_true, Bool.false_eq_true, if_false, List.reverse_reverse,
      List.isEmpty_nil, List.isEmpty_cons]

/-- Text in front of markup is added to the innermost open element `e`. -/
theorem run_text (run : Run) (e : Element) (outer : List Element) (root : Option Element)
    (start pos : Nat) (rest : List Char) (hrest : ∃ tail, rest = '<' :: tail) : ∃ start' pos',
    Reading.run ⟨e :: outer, root⟩ (scanFrom (.text []) start pos (run.chars ++ rest)) =
      Reading.run ⟨run.addTo e :: outer, root⟩ (scanFrom (.text []) start' pos' rest) := by
  obtain ⟨start', pos', hscan⟩ := scanFrom_run run start pos rest hrest
  refine ⟨start', pos', ?_⟩
  rw [hscan, Run.addTo]
  split
  · rfl
  · rfl

/-- Added text stands at the end of the element `e`, joined to the text that stood there before, if
    any. -/
theorem Element.addText_eq (e : Element) : ∃ before text, ∀ s,
    e.addText s = { e with children := before ++ [.text (text ++ s)] } := by
  unfold Element.addText
  split
  · rename_i text hlast
    exact ⟨e.children.dropLast, text, fun s => rfl⟩
  · refine ⟨e.children, "", fun s => ?_⟩
    rw [String.empty_append]
    rfl

/-- Texts `s` and `t` that are added one after the other come to one text. -/
theorem Element.addText_addText (e : Element) (s t : String) :
    (e.addText s).addText t = e.addText (s ++ t) := by
  obtain ⟨before, text, heq⟩ := e.addText_eq
  rw [heq, heq, ← String.append_assoc]
  simp [Element.addText]

/-! ### Character data -/

/-- The mark that begins character data, which `cdataText` writes. -/
def cdataStart : List Char := "<![CDATA[".toList

/-- The mark that ends character data; `splitEnds` sees to it that there is none within. -/
def cdataEnd : List Char := [']', ']', '>']

/-- A text with every `]]>` split in front of its last character, by the end of one section and the
    start of another. -/
def splitEnds : List Char → List Char
  | ']' :: ']' :: '>' :: rest =>
    ']' :: ']' :: (cdataEnd ++ cdataStart ++ '>' :: splitEnds rest)
  | c :: rest => c :: splitEnds rest
  | [] => []

/-- A text as character data: in one section, or in several where it has a `]]>`. -/
def cdataText (s : List Char) : List Char :=
  cdataStart ++ splitEnds s ++ cdataEnd

/-- Where no `]]>` begins, the first character is kept and the rest is split. -/
theorem splitEnds_cons {c : Char} {s : List Char} (h : ¬ cdataEnd <+: c :: s) :
    splitEnds (c :: s) = c :: splitEnds s := by
  rw [splitEnds]
  rintro rest rfl rfl
  exact h ⟨rest, rfl⟩

/-- A text that is not of the form `]]>…` does not begin with these characters. -/
theorem not_cdataEnd_prefix {c : Char} {s : List Char}
    (h : ∀ rest, c = ']' → s = ']' :: '>' :: rest → False) : ¬ cdataEnd <+: c :: s := by
  rintro ⟨rest, hrest⟩
  obtain ⟨rfl, rfl⟩ := List.cons.inj hrest
  exact h rest rfl rfl

/-- A character `c` that is no bracket is kept. -/
theorem splitEnds_cons_of_ne {c : Char} (hc : c ≠ ']') (s : List Char) :
    splitEnds (c :: s) = c :: splitEnds s := by
  refine splitEnds_cons ?_
  rintro ⟨rest, hrest⟩
  exact hc (List.cons.inj hrest).1.symm

/-- A text `w` without brackets in front is kept. -/
theorem splitEnds_append {w : List Char} (hw : ']' ∉ w) (s : List Char) :
    splitEnds (w ++ s) = w ++ splitEnds s := by
  induction w with
  | nil => rfl
  | cons c w ih =>
    rw [List.mem_cons, not_or] at hw
    rw [List.cons_append, splitEnds_cons_of_ne (Ne.symm hw.1), ih hw.2, List.cons_append]

/-- The first character stays the first, as a `]]>` is split behind its brackets. -/
theorem splitEnds_head (c : Char) (s : List Char) : ∃ rest, splitEnds (c :: s) = c :: rest := by
  by_cases hsplit : cdataEnd <+: c :: s
  · obtain ⟨rest, hrest⟩ := hsplit
    obtain ⟨rfl, rfl⟩ := List.cons.inj hrest
    exact ⟨_, rfl⟩
  · exact ⟨_, splitEnds_cons hsplit⟩

/-- A text `w` without brackets stands in front of the split text exactly if it stands in front of
    the text. -/
theorem prefix_splitEnds_iff {w : List Char} (hw : ']' ∉ w) (s rest : List Char) :
    w <+: splitEnds s ++ ']' :: rest ↔ w <+: s := by
  constructor
  · intro h
    induction w generalizing s with
    | nil => exact List.nil_prefix
    | cons x w ih =>
      rw [List.mem_cons, not_or] at hw
      cases s with
      | nil =>
        obtain ⟨tail, htail⟩ := h
        exact absurd (List.cons.inj htail).1.symm hw.1
      | cons c s =>
        obtain ⟨front, hfront⟩ := splitEnds_head c s
        obtain ⟨rfl, hrest⟩ : x = c ∧ w <+: front ++ ']' :: rest := by
          -- the first characters are the same, and no bracket: so both sides go on behind them
          rw [hfront, List.cons_append] at h
          exact List.cons_prefix_cons.mp h
        rw [splitEnds_cons_of_ne (Ne.symm hw.1)] at h
        exact List.cons_prefix_cons.mpr ⟨rfl, ih hw.2 s (List.cons_prefix_cons.mp h).2⟩
  · rintro ⟨tail, rfl⟩
    rw [splitEnds_append hw, List.append_assoc]
    exact List.prefix_append w _

/-- A text is split in two parts, one apart from the other, at a character `c` that is in no
    `]]>`. -/
theorem splitEnds_append_cons {c : Char} (hc : c ∉ cdataEnd) (s t : List Char) :
    splitEnds (s ++ c :: t) = splitEnds s ++ splitEnds (c :: t) := by
  have hne : c ≠ ']' ∧ c ≠ '>' := by simpa [cdataEnd] using hc
  induction s using splitEnds.induct with
  | case1 tail ih =>
    rw [splitEnds, List.cons_append, List.cons_append, List.cons_append, splitEnds, ih]
    simp
  | case2 x tail hsplit ih =>
    have hfront : ¬ cdataEnd <+: x :: tail := not_cdataEnd_prefix hsplit
    have hall : ¬ cdataEnd <+: x :: (tail ++ c :: t) := by
      -- the text behind completes no `]]>`, as this would have `c` in it
      rintro ⟨rest, hrest⟩
      obtain ⟨rfl, htail⟩ := List.cons.inj hrest
      -- the second and the third character stand in front of `c`
      match tail, htail with
      | [], htail => exact hne.1 (List.cons.inj htail).1.symm
      | [y], htail => exact hne.2 (List.cons.inj (List.cons.inj htail).2).1.symm
      | y :: z :: tail, htail =>
        obtain ⟨rfl, hsecond⟩ := List.cons.inj htail
        obtain ⟨rfl, -⟩ := List.cons.inj hsecond
        exact hfront ⟨tail, rfl⟩
    rw [List.cons_append, splitEnds_cons hall, splitEnds_cons hfront, ih, List.cons_append]
  | case3 => rfl

/-- Splitting adds no character `c` that is in no mark. -/
theorem count_splitEnds {c : Char} (hc : c ∉ cdataEnd ++ cdataStart) (s : List Char) :
    (splitEnds s).count c = s.count c := by
  induction s using splitEnds.induct with
  | case1 tail ih =>
    have hmarks : (cdataEnd ++ cdataStart).count c = 0 := List.count_eq_zero.mpr hc
    rw [splitEnds, List.count_cons, List.count_cons, List.count_append, hmarks, List.count_cons, ih,
      List.count_cons, List.count_cons, List.count_cons]
    omega
  | case2 x tail hsplit ih =>
    have hfront : ¬ cdataEnd <+: x :: tail := not_cdataEnd_prefix hsplit
    rw [splitEnds_cons hfront, List.count_cons, ih, List.count_cons]
  | case3 => rfl

/-- What was gathered of character data, `read` with the last character first, does not end in a
    part of `]]>` that the text `s` completes. -/
structure Apart (read s : List Char) : Prop where
  /-- After two brackets the text does not begin with the `>` that is missing. -/
  bracket : ∀ inside tail, read = ']' :: ']' :: inside → s ≠ '>' :: tail
  /-- After one bracket it does not begin with the two characters that are missing. -/
  brackets : ∀ inside tail, read = ']' :: inside → s ≠ ']' :: '>' :: tail

/-- In character data a character `c` is gathered if it completes no `]]>`. -/
theorem scanFrom_cdata {read : List Char} {c : Char}
    (h : ∀ inside, read = ']' :: ']' :: inside → c ≠ '>') (start pos : Nat) (rest : List Char) :
    scanFrom (.cdata read) start pos (c :: rest) =
      scanFrom (.cdata (c :: read)) start (pos + c.utf8Size) rest := by
  have hstep : step (.cdata read) start pos c = .ok (.cdata (c :: read), none) := by
    unfold step
    simp only
    split
    · rename_i inside
      exact absurd rfl (h inside rfl)
    · rfl
  exact scanFrom_goOn (by simp) hstep rest

/-- The mark `cdataStart` leads from a text into character data, of which nothing has been
    gathered. -/
theorem scanFrom_cdataStart (start pos : Nat) (rest : List Char) : ∃ start' pos',
    scanFrom (.text []) start pos (cdataStart ++ rest) = scanFrom (.cdata []) start' pos' rest :=
  ⟨_, _, rfl⟩

/-- The end mark of character data adds what was gathered to the innermost open element `e`. -/
theorem run_cdataEnd (read : List Char) (e : Element) (outer : List Element)
    (root : Option Element) (start pos : Nat) (rest : List Char) : ∃ start' pos',
    Reading.run ⟨e :: outer, root⟩ (scanFrom (.cdata read) start pos (cdataEnd ++ rest)) =
      Reading.run ⟨e.addText (String.ofList read.reverse) :: outer, root⟩
        (scanFrom (.text []) start' pos' rest) := by
  refine ⟨start, pos + ']'.utf8Size + ']'.utf8Size + '>'.utf8Size, ?_⟩
  have hbrackets : scanFrom (.cdata read) start pos (cdataEnd ++ rest) =
      scanFrom (.cdata (']' :: ']' :: read)) start (pos + ']'.utf8Size + ']'.utf8Size)
        ('>' :: rest) := by
    show scanFrom (.cdata read) start pos (']' :: ']' :: '>' :: rest) = _
    rw [scanFrom_cdata (fun _ _ => by decide), scanFrom_cdata (fun _ _ => by decide)]
  rw [hbrackets]
  rfl

/-- A character that completes no `]]>` can be gathered, and what is gathered then does not end in a
    part of `]]>` either, if none begins with the character. -/
theorem Apart.cons {read s : List Char} {c : Char} (h : Apart read (c :: s))
    (hsplit : ¬ cdataEnd <+: c :: s) : Apart (c :: read) s where
  bracket := by
    rintro inside tail hread rfl
    obtain ⟨rfl, hinside⟩ := List.cons.inj hread
    exact h.brackets inside tail hinside rfl
  brackets := by
    rintro inside tail hread rfl
    obtain ⟨rfl, -⟩ := List.cons.inj hread
    exact hsplit ⟨tail, rfl⟩

/-- Where a `]]>` was split, the section that was gathered, `read`, ends behind the brackets and is
    added to the open element, and the next section begins with the `>`. -/
theorem run_split (read : List Char) (e : Element) (outer : List Element) (root : Option Element)
    (start pos : Nat) (rest : List Char) : ∃ start' pos', Reading.run ⟨e :: outer, root⟩
        (scanFrom (.cdata read) start pos
          (']' :: ']' :: (cdataEnd ++ (cdataStart ++ '>' :: rest)))) =
      Reading.run ⟨e.addText (String.ofList (read.reverse ++ [']', ']'])) :: outer, root⟩
        (scanFrom (.cdata ['>']) start' pos' rest) := by
  obtain ⟨start₁, pos₁, hend⟩ := run_cdataEnd (']' :: ']' :: read) e outer root start
    (pos + ']'.utf8Size + ']'.utf8Size) (cdataStart ++ '>' :: rest)
  obtain ⟨start₂, pos₂, hopen⟩ := scanFrom_cdataStart start₁ pos₁ ('>' :: rest)
  have hsecond : scanFrom (.cdata []) start₂ pos₂ ('>' :: rest) =
      scanFrom (.cdata ['>']) start₂ (pos₂ + '>'.utf8Size) rest :=
    scanFrom_cdata (fun _ => by simp) _ _ _
  have htext : (']' :: ']' :: read).reverse = read.reverse ++ [']', ']'] := by simp
  refine ⟨start₂, pos₂ + '>'.utf8Size, ?_⟩
  rw [scanFrom_cdata (fun _ _ => by decide), scanFrom_cdata (fun _ _ => by decide), hend, hopen,
    hsecond, htext]

/-- Character data is one text again, however often it was split: what was gathered, `read`, and the
    text `s` behind it are added to the open element together. -/
theorem run_splitEnds (read : List Char) {s : List Char} (h : Apart read s) (e : Element)
    (outer : List Element) (root : Option Element) (start pos : Nat) (rest : List Char) :
    ∃ start' pos', Reading.run ⟨e :: outer, root⟩
        (scanFrom (.cdata read) start pos (splitEnds s ++ (cdataEnd ++ rest))) =
      Reading.run ⟨e.addText (String.ofList (read.reverse ++ s)) :: outer, root⟩
        (scanFrom (.text []) start' pos' rest) := by
  induction s using splitEnds.induct generalizing read e start pos with
  | case1 tail ih =>
    obtain ⟨start₁, pos₁, hfirst⟩ := run_split read e outer root start pos
      (splitEnds tail ++ (cdataEnd ++ rest))
    obtain ⟨start₂, pos₂, htail⟩ := ih ['>'] ⟨nofun, nofun⟩
      (e.addText (String.ofList (read.reverse ++ [']', ']']))) start₁ pos₁
    -- the two sections are added one after the other, which is adding both at once
    have htext : String.ofList (read.reverse ++ [']', ']']) ++
        String.ofList (['>'].reverse ++ tail) =
          String.ofList (read.reverse ++ ']' :: ']' :: '>' :: tail) := by
      rw [← String.ofList_append]
      simp
    rw [Element.addText_addText, htext] at htail
    refine ⟨start₂, pos₂, ?_⟩
    rw [splitEnds, List.cons_append, List.cons_append, List.append_assoc, List.append_assoc,
      List.cons_append, hfirst, htail]
  | case2 c tail hsplit ih =>
    have hsplit : ¬ cdataEnd <+: c :: tail := not_cdataEnd_prefix hsplit
    have hread : ∀ inside, read = ']' :: ']' :: inside → c ≠ '>' := by
      rintro inside hread rfl
      exact h.bracket inside tail hread rfl
    obtain ⟨start', pos', htail⟩ := ih (c :: read) (h.cons hsplit) e start (pos + c.utf8Size)
    refine ⟨start', pos', ?_⟩
    rw [splitEnds_cons hsplit, List.cons_append, scanFrom_cdata hread, htail, List.reverse_cons,
      List.append_assoc, List.singleton_append]
  | case3 =>
    obtain ⟨start', pos', hend⟩ := run_cdataEnd read e outer root start pos rest
    refine ⟨start', pos', ?_⟩
    rw [List.append_nil]
    exact hend

/-- **Character data is read as the text that was written,** whatever is in `s`. -/
theorem run_cdataText (s : List Char) (e : Element) (outer : List Element)
    (root : Option Element) (start pos : Nat) (rest : List Char) : ∃ start' pos',
    Reading.run ⟨e :: outer, root⟩ (scanFrom (.text []) start pos (cdataText s ++ rest)) =
      Reading.run ⟨e.addText (String.ofList s) :: outer, root⟩
        (scanFrom (.text []) start' pos' rest) := by
  obtain ⟨start₁, pos₁, hopen⟩ := scanFrom_cdataStart start pos (splitEnds s ++ (cdataEnd ++ rest))
  obtain ⟨start₂, pos₂, hdata⟩ :=
    run_splitEnds [] (s := s) ⟨nofun, nofun⟩ e outer root start₁ pos₁ rest
  refine ⟨start₂, pos₂, ?_⟩
  rw [cdataText, List.append_assoc, List.append_assoc, hopen, hdata]
  rfl

end PagePatch.Xml
