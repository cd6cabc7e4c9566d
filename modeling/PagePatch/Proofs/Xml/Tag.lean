import PagePatch.Proofs.Xml.Passage

namespace PagePatch.Xml

/-!
# Tags as they are written

A tag that is written in the plain way, every attribute behind one blank and in double quotes, is
read as what was written, whatever the values hold. References in the values are replaced.

* `Tag` — a name and attributes that can be written in a tag;
* `scanFrom_startTag`, `scanFrom_singleTag`, `scanFrom_endTag` — the events that tags are cut into;
* `Tag.ofTag_inside` — the element that a start tag opens.
-/

/-- The characters of names: none that means something in a tag, and no blank, as `isSpace` knows
    it. -/
def isNameChar (c : Char) : Bool :=
  !isSpace c && !(['"', '\'', '<', '>', '/', '=', '!', '?'].contains c)

/-- The text `s` can be written as a name of a tag or as a key of an attribute. -/
def IsName (s : List Char) : Prop :=
  s ≠ [] ∧ s.all isNameChar = true

instance : DecidablePred IsName := fun s =>
  inferInstanceAs (Decidable (s ≠ [] ∧ s.all isNameChar = true))

/-- A character `c` of a name is none of those that mean something, each of which is set apart
    here. -/
theorem isNameChar_iff {c : Char} : isNameChar c = true ↔
    isSpace c = false ∧ c ≠ '"' ∧ c ≠ '\'' ∧ c ≠ '<' ∧ c ≠ '>' ∧ c ≠ '/' ∧ c ≠ '=' ∧ c ≠ '!' ∧
      c ≠ '?' := by
  simp [isNameChar]

/-- A tag as it is written in the plain way: its values are as they stand between the double quotes,
    with the references in them. `Tag.element` has these replaced. -/
structure Tag where
  /-- The name. -/
  name : List Char
  /-- Keys and values of the attributes. -/
  attributes : List (List Char × List Char) := []
  /-- The name can be written. -/
  isName : IsName name := by decide
  /-- So can the keys. -/
  keys : ∀ a ∈ attributes, IsName a.1 := by decide
  /-- No value has a double quote, at which it would end early. -/
  values : ∀ a ∈ attributes, '"' ∉ a.2 := by decide
  /-- No key occurs twice. -/
  distinct : (attributes.map Prod.fst).Nodup := by decide

/-- The attribute `a` as it is written: behind one blank, and with its value in double quotes. -/
def attributeText (a : List Char × List Char) : List Char :=
  ' ' :: a.1 ++ '=' :: '"' :: a.2 ++ ['"']

/-- The attributes `as` as they are written, one behind the other. -/
def attributesText (as : List (List Char × List Char)) : List Char :=
  as.flatMap attributeText

namespace Tag

/-- What stands between the angle brackets of the start tag `t`. -/
def inside (t : Tag) : List Char :=
  t.name ++ attributesText t.attributes

/-- The element that the tag `t` opens: nothing stands in it yet, and the references in the values
    are replaced. -/
def element (t : Tag) : Element where
  name := String.ofList t.name
  attributes := t.attributes.map fun a => (String.ofList a.1, String.ofList (unescapeOrRaw a.2))
  children := []

end Tag

/-! ### Reading on inside markup -/

/-- Where a character `c` of markup ends nothing, the scanner goes on behind it in the mode
    `next`. -/
theorem scanFrom_goOn {mode next : Mode} {start pos : Nat} {c : Char}
    (hmode : ∀ read, mode ≠ .text read) (h : step mode start pos c = .ok (next, none))
    (rest : List Char) : scanFrom mode start pos (c :: rest) =
      scanFrom next start (pos + c.utf8Size) rest := by
  rw [scanFrom]
  · rw [h]
  · exact hmode

/-- In markup the scanner gathers the characters of `s`, if none of them ends the mode; the last one
    read comes first. -/
theorem scanFrom_gather (mode : List Char → Mode) (hmode : ∀ read read', mode read ≠ .text read')
    (s read : List Char) (h : ∀ before c after, s = before ++ c :: after → ∀ start pos,
      step (mode (before.reverse ++ read)) start pos c =
        .ok (mode (c :: (before.reverse ++ read)), none)) (start pos : Nat) (rest : List Char) :
    ∃ pos', scanFrom (mode read) start pos (s ++ rest) =
      scanFrom (mode (s.reverse ++ read)) start pos' rest := by
  induction s generalizing read pos with
  | nil => exact ⟨pos, rfl⟩
  | cons c s ih =>
    have hrest : ∀ before x after, s = before ++ x :: after → ∀ start pos,
        step (mode (before.reverse ++ c :: read)) start pos x =
          .ok (mode (x :: (before.reverse ++ c :: read)), none) := by
      intro before x after hs
      have hstep := h (c :: before) x after (by rw [hs, List.cons_append])
      rwa [List.reverse_cons, List.append_assoc] at hstep
    obtain ⟨pos', heq⟩ := ih (c :: read) hrest (pos + c.utf8Size)
    refine ⟨pos', ?_⟩
    rw [List.cons_append, scanFrom_goOn (hmode read) (h [] c s rfl start pos), List.reverse_cons,
      List.append_assoc]
    exact heq

/-! ### Cutting out tags -/

/-- In a tag, the text `s` leads to the place outside quotes behind it, whatever was read before and
    whatever follows. -/
def StaysInTag (s : List Char) : Prop :=
  ∀ read start pos rest, ∃ pos', scanFrom (.tag none read) start pos (s ++ rest) =
    scanFrom (.tag none (s.reverse ++ read)) start pos' rest

namespace StaysInTag

/-- So do `s` and `t` one behind the other, if each does. -/
protected theorem append {s t : List Char} (hs : StaysInTag s) (ht : StaysInTag t) :
    StaysInTag (s ++ t) := by
  intro read start pos rest
  obtain ⟨pos₁, h₁⟩ := hs read start pos (t ++ rest)
  obtain ⟨pos₂, h₂⟩ := ht (s.reverse ++ read) start pos₁ rest
  refine ⟨pos₂, ?_⟩
  rw [List.append_assoc, h₁, h₂, List.reverse_append, List.append_assoc]

/-- The text `s` stays in a tag if its characters neither begin a value nor end the tag. -/
theorem of_inside {s : List Char} (hs : s.all isInside = true) : StaysInTag s := by
  intro read
  refine scanFrom_gather (.tag none) nofun s read ?_
  rintro before c after rfl start pos
  obtain ⟨hend, hquote⟩ := inside_stays (List.all_eq_true.mp hs c (by simp))
  rw [step, if_neg hend, hquote]

/-- A value `v` in double quotes stays in a tag, whatever else is in it. -/
theorem quoted {v : List Char} (hv : '"' ∉ v) : StaysInTag ('"' :: v ++ ['"']) := by
  intro read start pos rest
  obtain ⟨pos', heq⟩ := scanFrom_gather (.tag (some '"')) nofun v ('"' :: read)
    (by
      rintro before c after rfl start pos
      have hne : c ≠ '"' := by
        rintro rfl
        simp at hv
      rw [step, if_neg (by simp), quoteAfter, if_neg hne])
    start (pos + '"'.utf8Size) ('"' :: rest)
  refine ⟨pos' + '"'.utf8Size, ?_⟩
  have hopen : scanFrom (.tag none read) start pos ('"' :: v ++ ['"'] ++ rest) =
      scanFrom (.tag (some '"') ('"' :: read)) start (pos + '"'.utf8Size) (v ++ '"' :: rest) := by
    rw [List.append_assoc]
    rfl
  have hread : ('"' :: v ++ ['"']).reverse ++ read = '"' :: (v.reverse ++ '"' :: read) := by simp
  rw [hopen, heq, hread]
  rfl

end StaysInTag

/-- A character `c` of a name neither begins a value nor ends the tag. -/
theorem isInside_of_isNameChar {c : Char} (h : isNameChar c = true) : isInside c = true := by
  obtain ⟨-, hdouble, hsingle, -, hgt, -⟩ := isNameChar_iff.mp h
  simp [isInside, hdouble, hsingle, hgt]

/-- So does a name `s`. -/
theorem IsName.all_isInside {s : List Char} (h : IsName s) : s.all isInside = true :=
  List.all_eq_true.mpr fun c hc => isInside_of_isNameChar (List.all_eq_true.mp h.2 c hc)

/-- The attributes `as` stay in a tag, by their keys and by their values. -/
theorem staysInTag_attributesText {as : List (List Char × List Char)}
    (hkeys : ∀ a ∈ as, IsName a.1) (hvalues : ∀ a ∈ as, '"' ∉ a.2) :
    StaysInTag (attributesText as) := by
  induction as with
  | nil => exact .of_inside rfl
  | cons a as ih =>
    obtain ⟨hkey, hkeys⟩ := List.forall_mem_cons.mp hkeys
    obtain ⟨hvalue, hvalues⟩ := List.forall_mem_cons.mp hvalues
    have hfront : StaysInTag ([' '] ++ a.1 ++ ['=']) :=
      ((StaysInTag.of_inside (by decide)).append (.of_inside hkey.all_isInside)).append
        (.of_inside (by decide))
    have hall := (hfront.append (.quoted hvalue)).append (ih hkeys hvalues)
    have htext : attributesText (a :: as) =
        [' '] ++ a.1 ++ ['='] ++ ('"' :: a.2 ++ ['"']) ++ attributesText as := by
      simp [attributesText, attributeText]
    rwa [htext]

/-- A tag begins with the first character of its name, behind the `<`. -/
theorem scanFrom_opened {c : Char} (hc : isNameChar c = true) (start pos : Nat)
    (rest : List Char) : ∃ start' pos', scanFrom (.text []) start pos ('<' :: c :: rest) =
      scanFrom (.tag none [c]) start' pos' rest := by
  obtain ⟨-, hdouble, hsingle, -, hgt, hslash, -, hbang, hquestion⟩ := isNameChar_iff.mp hc
  have hquote : quoteAfter none c = none := by simp [quoteAfter, hdouble, hsingle]
  refine ⟨pos, pos + '<'.utf8Size + c.utf8Size, ?_⟩
  simp only [scanFrom, step, hbang, hslash, hquestion, hgt, hquote, if_true, if_false,
    List.isEmpty_nil]

namespace Tag

/-- The scanner comes to the end of what stands in the tag `t`, and has read all of it. -/
theorem scanFrom_inside (t : Tag) (start pos : Nat) (rest : List Char) : ∃ start' pos',
    scanFrom (.text []) start pos ('<' :: t.inside ++ rest) =
      scanFrom (.tag none t.inside.reverse) start' pos' rest := by
  obtain ⟨name, attributes, isName, keys, values, distinct⟩ := t
  simp only [inside]
  cases name with
  | nil => exact absurd rfl isName.1
  | cons c name =>
    obtain ⟨hc, hname⟩ := List.forall_mem_cons.mp (List.all_eq_true.mp isName.2)
    -- the first character opens the tag, and the others stay in it
    obtain ⟨start₁, pos₁, hopen⟩ :=
      scanFrom_opened hc start pos (name ++ attributesText attributes ++ rest)
    have hstays : StaysInTag (name ++ attributesText attributes) :=
      (StaysInTag.of_inside (List.all_eq_true.mpr fun x hx =>
        isInside_of_isNameChar (hname x hx))).append (staysInTag_attributesText keys values)
    obtain ⟨pos₂, hrest⟩ := hstays [c] start₁ pos₁ rest
    refine ⟨start₁, pos₂, ?_⟩
    rw [List.cons_append, List.cons_append, List.cons_append, hopen, hrest, List.reverse_cons]

/-- The start tag `t` does not look like one that is closed at once: it ends in a quote or in its
    name, and not in a slash. -/
theorem tagEvent_inside (t : Tag) : tagEvent t.inside.reverse = .start t.inside := by
  have hlast : ∀ tail, t.inside.reverse ≠ '/' :: tail := by
    intro tail heq
    have hslash : t.inside.getLast? = some '/' := by
      -- otherwise the slash would be the last character: of the name, or of the last attribute
      rw [← List.head?_reverse, heq, List.head?_cons]
    unfold inside at hslash
    cases hattributes : t.attributes using List.reverseRecOn with
    | nil =>
      rw [hattributes, attributesText, List.flatMap_nil, List.append_nil] at hslash
      have hname := List.all_eq_true.mp t.isName.2 '/' (List.mem_of_getLast? hslash)
      exact absurd hname (by decide)
    | append_singleton as a =>
      have hend : attributesText (as ++ [a]) =
          attributesText as ++ ' ' :: a.1 ++ '=' :: '"' :: a.2 ++ ['"'] := by
        simp [attributesText, attributeText]
      rw [hattributes, hend, ← List.append_assoc, List.getLast?_concat] at hslash
      exact absurd hslash (by decide)
  unfold tagEvent
  split
  · rename_i tail heq
    exact absurd heq (hlast tail)
  · rw [List.reverse_reverse]

end Tag

/-- The start tag `t` is one event, behind which the scanner is in a text again. -/
theorem scanFrom_startTag (t : Tag) (start pos : Nat) (rest : List Char) : ∃ start' pos',
    scanFrom (.text []) start pos ('<' :: t.inside ++ '>' :: rest) =
      .more (.start t.inside) (scanFrom (.text []) start' pos' rest) := by
  obtain ⟨start', pos', hinside⟩ := t.scanFrom_inside start pos ('>' :: rest)
  refine ⟨start', pos' + '>'.utf8Size, ?_⟩
  rw [hinside, ← t.tagEvent_inside]
  rfl

/-- So is the tag `t` when it is closed at once. -/
theorem scanFrom_singleTag (t : Tag) (start pos : Nat) (rest : List Char) : ∃ start' pos',
    scanFrom (.text []) start pos ('<' :: t.inside ++ '/' :: '>' :: rest) =
      .more (.empty t.inside) (scanFrom (.text []) start' pos' rest) := by
  obtain ⟨start', pos', hinside⟩ := t.scanFrom_inside start pos ('/' :: '>' :: rest)
  refine ⟨start', pos' + '/'.utf8Size + '>'.utf8Size, ?_⟩
  have hevent : Event.empty t.inside = tagEvent ('/' :: t.inside.reverse) := by
    rw [tagEvent, List.reverse_reverse]
  rw [hinside, hevent]
  rfl

/-- So is an end tag, at the position `at'`. -/
theorem scanFrom_endTag {name : List Char} (hname : IsName name) (start pos : Nat)
    (rest : List Char) : ∃ start' pos' at',
    scanFrom (.text []) start pos ('<' :: '/' :: name ++ '>' :: rest) =
      .more (.finish name at') (scanFrom (.text []) start' pos' rest) := by
  obtain ⟨pos', heq⟩ := scanFrom_gather (.closing none) nofun name []
    (by
      rintro before c after rfl start pos
      have hc := List.all_eq_true.mp hname.all_isInside c (by simp)
      rw [step, if_neg (inside_stays hc).1, (inside_stays hc).2])
    pos (pos + '<'.utf8Size + '/'.utf8Size) ('>' :: rest)
  -- no blank stands at the end of the name
  have hend : endName name.reverse = name := by
    have hfront : name.reverse.dropWhile isSpace = name.reverse := by
      cases hreverse : name.reverse with
      | nil => rfl
      | cons c tail =>
        have hmem : c ∈ name := List.mem_reverse.mp (hreverse ▸ List.mem_cons_self)
        have hspace := (isNameChar_iff.mp (List.all_eq_true.mp hname.2 c hmem)).1
        rw [List.dropWhile_cons_of_neg (by simp [hspace])]
    have hne : name.isEmpty = false := List.isEmpty_eq_false_iff.mpr hname.1
    simp only [endName, hfront, List.reverse_reverse, hne, Bool.false_eq_true, if_false]
  refine ⟨pos, pos' + '>'.utf8Size, pos, ?_⟩
  have hopen : scanFrom (.text []) start pos ('<' :: '/' :: name ++ '>' :: rest) =
      scanFrom (.closing none []) pos (pos + '<'.utf8Size + '/'.utf8Size) (name ++ '>' :: rest) :=
    rfl
  rw [hopen, heq, List.append_nil]
  show Events.more (.finish (endName name.reverse) pos) _ = _
  rw [hend]

/-! ### Reading attributes -/

/-- The characters of a key are gathered up to its equals sign, and the key joins those that were
    `seen`. -/
theorem readAttributes_key {key : List Char} (hkey : key.all isNameChar = true)
    (start : Nat) (read : List Char) (seen : List (List Char × Nat)) (pos : Nat)
    (rest : List Char) (hnew : seen.lookup (read.reverse ++ key) = none) : ∃ pos',
    readAttributes (.key start read) seen pos (key ++ '=' :: rest) =
      readAttributes (.beforeValue (read.reverse ++ key)) ((read.reverse ++ key, start) :: seen)
        pos' rest := by
  induction key generalizing read pos with
  | nil =>
    rw [List.append_nil] at hnew
    refine ⟨pos + '='.utf8Size, ?_⟩
    rw [List.nil_append, readAttributes]
    simp only [if_true, endKey, hnew, List.append_nil]
    rfl
  | cons c key ih =>
    rw [List.all_cons, Bool.and_eq_true] at hkey
    obtain ⟨hspace, -, -, -, -, -, hequals, -⟩ := isNameChar_iff.mp hkey.1
    have hread : read.reverse ++ c :: key = (c :: read).reverse ++ key := by simp
    rw [hread] at hnew ⊢
    obtain ⟨pos', heq⟩ := ih hkey.2 (c :: read) (pos + c.utf8Size) hnew
    refine ⟨pos', ?_⟩
    rw [List.cons_append, readAttributes]
    simp only [hequals, hspace, if_false, Bool.false_eq_true]
    exact heq

/-- The characters of `value` are gathered up to its quote, and the references in it are
    replaced. -/
theorem readAttributes_value {value : List Char} (hvalue : '"' ∉ value) (key read : List Char)
    (seen : List (List Char × Nat)) (pos : Nat) (rest : List Char) : ∃ pos',
    readAttributes (.value key '"' read) seen pos (value ++ '"' :: rest) =
      (readAttributes .between seen pos' rest).map
        ((String.ofList key, String.ofList (unescapeOrRaw (read.reverse ++ value))) :: ·) := by
  induction value generalizing read pos with
  | nil =>
    refine ⟨pos + '"'.utf8Size, ?_⟩
    rw [List.nil_append, readAttributes, List.append_nil]
    simp only [if_true]
    cases readAttributes .between seen (pos + '"'.utf8Size) rest <;> rfl
  | cons c value ih =>
    rw [List.mem_cons, not_or] at hvalue
    obtain ⟨pos', heq⟩ := ih hvalue.2 (c :: read) (pos + c.utf8Size)
    refine ⟨pos', ?_⟩
    rw [List.cons_append, readAttributes, if_neg (Ne.symm hvalue.1), heq, List.reverse_cons,
      List.append_assoc, List.singleton_append]

/-- One attribute `a` is read whose key is new, and then the others. -/
theorem readAttributes_attributeText {a : List Char × List Char} (hkey : IsName a.1)
    (hvalue : '"' ∉ a.2) {seen : List (List Char × Nat)} (hnew : seen.lookup a.1 = none)
    (pos : Nat) (rest : List Char) : ∃ start pos',
    readAttributes .between seen pos (attributeText a ++ rest) =
      (readAttributes .between ((a.1, start) :: seen) pos' rest).map
        ((String.ofList a.1, String.ofList (unescapeOrRaw a.2)) :: ·) := by
  obtain ⟨key, value⟩ := a
  obtain ⟨hne, hkey⟩ := hkey
  cases key with
  | nil => exact absurd rfl hne
  | cons c key =>
    rw [List.all_cons, Bool.and_eq_true] at hkey
    have hspace := (isNameChar_iff.mp hkey.1).1
    have htext : attributeText (c :: key, value) ++ rest =
        ' ' :: c :: (key ++ '=' :: '"' :: (value ++ '"' :: rest)) := by
      simp [attributeText]
    obtain ⟨pos₁, hname⟩ := readAttributes_key hkey.2 (pos + ' '.utf8Size) [c] seen
      (pos + ' '.utf8Size + c.utf8Size) ('"' :: (value ++ '"' :: rest)) hnew
    obtain ⟨pos₂, hquoted⟩ := readAttributes_value hvalue (c :: key) []
      ((c :: key, pos + ' '.utf8Size) :: seen) (pos₁ + '"'.utf8Size) rest
    refine ⟨pos + ' '.utf8Size, pos₂, ?_⟩
    have hbegin : readAttributes .between seen pos
        (' ' :: c :: (key ++ '=' :: '"' :: (value ++ '"' :: rest))) =
        readAttributes (.key (pos + ' '.utf8Size) [c]) seen (pos + ' '.utf8Size + c.utf8Size)
          (key ++ '=' :: '"' :: (value ++ '"' :: rest)) := by
      rw [readAttributes, readAttributes]
      simp only [hspace, Bool.false_eq_true, if_false]
      rfl
    rw [htext, hbegin, hname]
    exact hquoted

/-- All attributes `as` are read, in order, if no key occurs twice. -/
theorem readAttributes_attributesText {as : List (List Char × List Char)}
    (hkeys : ∀ a ∈ as, IsName a.1) (hvalues : ∀ a ∈ as, '"' ∉ a.2)
    (hdistinct : (as.map Prod.fst).Nodup) (pos : Nat) :
    readAttributes .between [] pos (attributesText as) =
      .ok (as.map fun a => (String.ofList a.1, String.ofList (unescapeOrRaw a.2))) := by
  -- a key that was seen before does not occur any more
  have hall : ∀ (seen : List (List Char × Nat)) (pos : Nat), (∀ a ∈ as, seen.lookup a.1 = none) →
      readAttributes .between seen pos (attributesText as) =
        .ok (as.map fun a => (String.ofList a.1, String.ofList (unescapeOrRaw a.2))) := by
    clear pos
    induction as with
    | nil => exact fun _ _ _ => rfl
    | cons a as ih =>
      intro seen pos hseen
      obtain ⟨hkey, hkeys⟩ := List.forall_mem_cons.mp hkeys
      obtain ⟨hvalue, hvalues⟩ := List.forall_mem_cons.mp hvalues
      obtain ⟨hnew, hseen⟩ := List.forall_mem_cons.mp hseen
      rw [List.map_cons, List.nodup_cons] at hdistinct
      obtain ⟨start, pos', heq⟩ := readAttributes_attributeText hkey hvalue hnew pos
        (attributesText as)
      have hrest : ∀ b ∈ as, ((a.1, start) :: seen).lookup b.1 = none := by
        intro b hb
        have hne : (b.1 == a.1) = false :=
          beq_false_of_ne fun heq => hdistinct.1 (heq ▸ List.mem_map_of_mem hb)
        rw [List.lookup_cons, hne]
        exact hseen b hb
      have htext : attributesText (a :: as) = attributeText a ++ attributesText as :=
        List.flatMap_cons
      rw [htext, heq, ih hkeys hvalues hdistinct.2 _ _ hrest]
      rfl
  exact hall [] pos fun _ _ => rfl

/-- The name in the tag `t` ends at the blank in front of its attributes, or at its end. -/
theorem span_inside (t : Tag) : t.inside.takeWhile (!isSpace ·) = t.name ∧
    t.inside.dropWhile (!isSpace ·) = attributesText t.attributes := by
  have hname : ∀ c ∈ t.name, (!isSpace c) = true := by
    intro c hc
    rw [(isNameChar_iff.mp (List.all_eq_true.mp t.isName.2 c hc)).1]
    rfl
  unfold Tag.inside
  rw [List.takeWhile_append_of_pos hname, List.dropWhile_append_of_pos hname]
  cases t.attributes with
  | nil => exact ⟨List.append_nil _, rfl⟩
  | cons a as => exact ⟨List.append_nil _, rfl⟩

/-- **A start tag opens the element that was written,** with the name of `t` and its attributes as
    they are read. -/
theorem Tag.ofTag_inside (t : Tag) : Element.ofTag t.inside = .ok t.element := by
  obtain ⟨htake, hdrop⟩ := span_inside t
  simp only [Element.ofTag, Xml.attributes, tagName, htake, hdrop,
    readAttributes_attributesText t.keys t.values t.distinct]
  rfl

end PagePatch.Xml
