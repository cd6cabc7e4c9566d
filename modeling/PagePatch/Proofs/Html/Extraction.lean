import Mathlib.Data.List.Sort
import PagePatch.Proofs.Html.Distinct
import PagePatch.Proofs.Html.Section

namespace PagePatch.Html

/-!
# Sections that are written and cut out again

A section is written as a start tag with its attributes, what is in it, and an end tag. When it is
cut out again, the last end tag is the one that was written, whatever is in the section. But the
start tag is taken to end at its first `>`, and a value may have one.

* `Attributes.ofList_ascending` — attributes are kept in the order of their names;
* `findRegionStart_front`, `beforeRegionEnd?_append` — where the start tag and the end tag are
  found;
* `regionAttributes_whole`, `regionAttributes_unclosed` — the attributes of a start tag, and of one
  that ends in a value;
* `Section.write`, `Section.Recovers` — what comes of a section that was written.
-/

/-! ### Sorted attributes -/

namespace Attributes

/-- What is among attributes to which `a` is added is `a` or was among them. -/
theorem mem_insertSorted {a x : Attribute} {as : List Attribute} (h : x ∈ insertSorted a as) :
    x = a ∨ x ∈ as := by
  induction as with
  | nil => exact .inl (List.mem_singleton.mp h)
  | cons b as ih =>
    rw [insertSorted] at h
    split at h
    · exact (List.mem_cons.mp h).imp_right (List.mem_cons_of_mem b)
    · split at h
      · exact List.mem_cons.mp h
      · rcases List.mem_cons.mp h with rfl | h
        · exact .inr List.mem_cons_self
        · exact (ih h).imp_right (List.mem_cons_of_mem b)

/-- The attribute `a` that is put in its place among sorted ones leaves them sorted by name. -/
theorem insertSorted_ascending {a : Attribute} (ha : a.space = .plain) {as : List Attribute}
    (hplain : ∀ b ∈ as, b.space = .plain) (has : as.Pairwise (·.name ≤ ·.name)) :
    (insertSorted a as).Pairwise (·.name ≤ ·.name) := by
  induction as with
  | nil => exact List.pairwise_singleton _ a
  | cons b as ih =>
    rw [List.forall_mem_cons] at hplain
    rw [List.pairwise_cons] at has
    rw [insertSorted]
    split
    · -- it takes the place of its namesake
      rename_i hsame
      have hname : a.name = b.name := beq_iff_eq.mp (Bool.and_eq_true_iff.mp hsame).2
      exact .cons (fun x hx => hname ▸ has.1 x hx) has.2
    · have hbefore : a.isBefore b = decide (a.name < b.name) := by
        simp [Attribute.isBefore, ha, hplain.1]
      split
      · rename_i hlt
        rw [hbefore, decide_eq_true_eq] at hlt
        have hle : a.name ≤ b.name := Std.le_of_lt hlt
        refine .cons (fun x hx => ?_) (.cons has.1 has.2)
        rcases List.mem_cons.mp hx with rfl | hx
        · exact hle
        · exact String.le_trans hle (has.1 x hx)
      · rename_i hge
        rw [hbefore, decide_eq_true_eq, String.not_lt] at hge
        refine .cons (fun x hx => ?_) (ih hplain.2 has.2)
        rcases mem_insertSorted hx with rfl | hx
        · exact hge
        · exact has.1 x hx

/-- **Attributes are kept in the order of their names,** if none of `as` has a namespace. -/
theorem ofList_ascending {as : List Attribute} (hplain : ∀ a ∈ as, a.space = .plain) :
    (ofList as).toList.Pairwise (·.name ≤ ·.name) := by
  have hall : ∀ held : Attributes, (∀ b ∈ held.toList, b.space = .plain) →
      held.toList.Pairwise (·.name ≤ ·.name) →
        (as.foldl insert held).toList.Pairwise (·.name ≤ ·.name) := by
    induction as with
    | nil => exact fun _ _ h => h
    | cons a as ih =>
      rw [List.forall_mem_cons] at hplain
      intro held hheld hsorted
      refine ih hplain.2 _ (fun b hb => ?_) (insertSorted_ascending hplain.1 hheld hsorted)
      rcases mem_insertSorted hb with rfl | hb
      · exact hplain.1
      · exact hheld b hb
  exact hall {} nofun .nil

end Attributes

/-! ### Where a section begins and ends -/

/-- A text `p` that stands in front is found there, whatever the case of letters. -/
theorem dropPrefixNoCase?_append (p s : List Char) :
    Text.dropPrefixNoCase? p (p ++ s) = some s := by
  induction p with
  | nil => rfl
  | cons c p ih => rw [List.cons_append, Text.dropPrefixNoCase?, if_pos rfl, ih]

/-- A start tag of `region` ends at the first `>` behind its name; what stands between, `front`, is
    empty or begins with a blank. -/
theorem regionStart?_front (region : Region) {front : List Char} (hfront : '>' ∉ front)
    (hblank : ∀ c ∈ front.head?, Text.isBlank c = true) (behind : List Char) :
    regionStart? region ('<' :: region.name.toList ++ (front ++ '>' :: behind)) = some behind := by
  have hname : Text.dropPrefixNoCase? ('<' :: region.name.toList)
      ('<' :: region.name.toList ++ (front ++ '>' :: behind)) = some (front ++ '>' :: behind) :=
    dropPrefixNoCase?_append _ _
  unfold regionStart?
  rw [hname]
  cases front with
  | nil => rfl
  | cons c front =>
    rw [List.mem_cons, not_or] at hfront
    have hdrop : (front ++ '>' :: behind).dropWhile (· ≠ '>') = '>' :: behind := by
      have hkept : ∀ x ∈ front, decide (x ≠ '>') = true := by
        rintro x hx
        exact decide_eq_true fun h => hfront.2 (h ▸ hx)
      rw [List.dropWhile_append_of_pos hkept, List.dropWhile_cons_of_neg (by simp)]
    rw [List.cons_append, Option.bind_eq_bind, Option.bind_some]
    split
    · rename_i heq
      exact absurd (List.cons.inj heq).1.symm hfront.1
    · rename_i heq
      obtain ⟨rfl, rfl⟩ := List.cons.inj heq
      rw [if_pos (hblank c rfl), hdrop]
      rfl
    · rename_i heq
      cases heq

/-- **Where a section begins.** A start tag in front of a text is found, up to its first `>`, and is
    taken as the start tag even if this `>` stands in a value. -/
theorem findRegionStart_front (region : Region) {front : List Char} (hfront : '>' ∉ front)
    (hblank : ∀ c ∈ front.head?, Text.isBlank c = true) (behind : List Char) :
    findRegionStart region ('<' :: region.name.toList ++ (front ++ '>' :: behind)) =
      some ('<' :: region.name.toList ++ front ++ ['>'], behind) := by
  have hstart := regionStart?_front region hfront hblank behind
  have htag : ('<' :: region.name.toList ++ (front ++ '>' :: behind)).take
      ((region.name.toList ++ (front ++ '>' :: behind)).length + 1 - behind.length) =
        '<' :: region.name.toList ++ front ++ ['>'] := by
    have htext : '<' :: region.name.toList ++ (front ++ '>' :: behind) =
        ('<' :: region.name.toList ++ front ++ ['>']) ++ behind := by simp
    have hlength : (region.name.toList ++ (front ++ '>' :: behind)).length + 1 - behind.length =
        ('<' :: region.name.toList ++ front ++ ['>']).length := by
      simp only [List.length_append, List.length_cons, List.length_nil]
      omega
    rw [hlength, htext, List.take_left]
  rw [List.cons_append] at hstart htag ⊢
  rw [findRegionStart, hstart]
  exact congrArg (fun tag => some (tag, behind)) htag

/-- **Where a section ends.** What is in front of an end tag that ends a text is all that is in
    front of the last end tag, even if `s` has others in it. -/
theorem beforeRegionEnd?_append (region : Region) (s : List Char) :
    beforeRegionEnd? region (s ++ ('<' :: '/' :: region.name.toList ++ ['>'])) = some s := by
  induction s with
  | nil => cases region <;> decide
  | cons c s ih => rw [List.cons_append, beforeRegionEnd?, ih]

/-- **Cutting out.** A start tag in front of a text, up to its first `>`, and an end tag at the end
    of the text delimit a section. -/
theorem section?_front (region : Region) {markup : String} {front inner : List Char}
    (hmarkup : markup.toList = '<' :: region.name.toList ++ (front ++ '>' ::
      (inner ++ ('<' :: '/' :: region.name.toList ++ ['>']))))
    (hfront : '>' ∉ front) (hblank : ∀ c ∈ front.head?, Text.isBlank c = true) :
    Html.section? region markup = some {
      attributes := regionAttributes region
        (String.ofList ('<' :: region.name.toList ++ front ++ ['>']))
      inner := String.ofList inner } := by
  unfold section?
  rw [hmarkup, findRegionStart_front region hfront hblank]
  dsimp only [Option.map_some]
  rw [beforeRegionEnd?_append, Option.getD_some]

/-! ### The attributes of a start tag -/

/-- The state in which `parsePage` begins: nothing but the root is there. -/
def pageStart : Builder where
  store := (({} : Store).create .root).1

/-- The trees of a text that is one start tag, or that has no tag which ends: they are those that
    its `tokens` and the end of the text make. -/
theorem parsePage_markup {s : List Char} {tokens : List Token}
    (hlex : lexMarkup false s = ⟨tokens, .data, []⟩) :
    parsePage (String.ofList ('<' :: s)) =
      ((tokens.foldl Builder.read pageStart).read .ending).store.children Builder.page := by
  -- outside of a script no token ends one
  have hends : tokens.any pageStart.endsScript = false := by
    rw [List.any_eq_false]
    intro token _
    cases token <;> simp [Builder.endsScript, pageStart]
  -- at the end of the text no more than the end is read, whatever the fuel
  have hnil : ∀ n mode element (b : Builder),
      Builder.readText n mode element b [] = b.read .ending := by
    intro n mode element b
    cases n <;> rfl
  have hread : pageStart.readAll (String.ofList ('<' :: s)) =
      (tokens.foldl Builder.read pageStart).read .ending := by
    have hlexed : lex .data "" pageStart.inForeign '<' s = ⟨tokens, .data, []⟩ := hlex
    unfold Builder.readAll
    rw [String.toList_ofList]
    show Builder.readText (s.length + 1) .data "" pageStart ('<' :: s) = _
    rw [Builder.readText]
    simp only [hlexed, hends, Bool.false_eq_true, if_false, hnil]
  exact congrArg (fun b : Builder => b.store.children Builder.page) hread

/-- The attributes of the element of `region` in a page of nothing but its start tag are those of
    the tag. -/
theorem attributes_startTag (region : Region) (as : List Attribute) :
    ((Node.elementsOf (((pageStart.read (.startTag { name := region.name, attributes := as })).read
      .ending).store.children Builder.page)).find? (·.1.name == region.name)).map
        (fun x => x.1.attributes) = some (Attributes.ofList as) := by
  cases region with
  | head => cbv
  | body => cbv

/-- An empty page has a head and a body, so an element for each `region`, both without
    attributes. -/
theorem attributes_empty (region : Region) :
    ((Node.elementsOf ((pageStart.read .ending).store.children Builder.page)).find?
      (·.1.name == region.name)).map (fun x => x.1.attributes) = some {} := by
  cases region with
  | head => decide
  | body => decide

/-- The attributes that `startTag` is read as are those of the element of the region in the page of
    its text. -/
theorem regionAttributes_of_find? {region : Region} {startTag : String} {as : Attributes}
    (h : ((Node.elementsOf (parsePage startTag)).find? (·.1.name == region.name)).map
      (fun x => x.1.attributes) = some as) :
    regionAttributes region startTag = as.toList.map fun a => (a.name, a.value) := by
  obtain ⟨x, hx, rfl⟩ := Option.map_eq_some_iff.mp h
  unfold regionAttributes
  rw [hx]

section

variable (region : Region) {as : List (List Char × List Char)}
  (hkeys : ∀ a ∈ as, a.1 ≠ [] ∧ a.1.all isKeyChar = true) (hvalues : ∀ a ∈ as, '"' ∉ a.2)

/-- The name of the `region` begins with a letter, and no character of it ends the name of a tag; so
    the tag is read from its attributes on. -/
theorem lexMarkup_region {rest : List Char} (hrest : rest.head?.any endsTagName = true) :
    lexMarkup false (region.name.toList ++ rest) =
      (readAttributes rest).elim ⟨[], .data, []⟩ fun (attributes, selfClosing, rest) =>
        ⟨[.startTag { name := region.name, attributes, selfClosing }], .data, rest⟩ := by
  have hletter : ∃ c tail, region.name.toList = c :: tail ∧ c.isAlpha = true := by
    cases region with
    | head => exact ⟨'h', _, rfl, by decide⟩
    | body => exact ⟨'b', _, rfl, by decide⟩
  have hname : region.name.toList.all (fun c => !endsTagName c && nameChar c == c) = true := by
    cases region <;> decide
  have hread := readNamedTag_append hname hrest
  obtain ⟨c, tail, heq, hc⟩ := hletter
  rw [String.ofList_toList] at hread
  rw [heq, List.cons_append] at hread ⊢
  rw [lexMarkup_letter hc, hread]
  cases readAttributes rest <;> rfl

include hkeys hvalues

/-- **The attributes of a start tag** are those that are written, `as`, as far as they count. -/
theorem regionAttributes_whole : regionAttributes region
    (String.ofList ('<' :: region.name.toList ++ Xml.attributesText as ++ ['>'])) =
      (Attributes.ofList (heldAttributes as)).toList.map fun a => (a.name, a.value) := by
  have hread := readAttributes_attributesText hkeys hvalues []
  have hends : (Xml.attributesText as ++ ['>']).head?.any endsTagName = true :=
    endsTagName_attributesText as rfl
  have hlex := lexMarkup_region region hends
  rw [hread] at hlex
  have hparse := parsePage_markup hlex
  refine regionAttributes_of_find? ?_
  rw [List.cons_append, List.cons_append, List.append_assoc, hparse]
  exact attributes_startTag region _

/-- **A start tag that ends in a value** is no tag that is ever closed, and so has no attributes at
    all, whatever `as` is. -/
theorem regionAttributes_unclosed {key value : List Char} (hne : key ≠ [])
    (hkey : key.all isKeyChar = true) (hvalue : '"' ∉ value) : regionAttributes region
      (String.ofList ('<' :: region.name.toList ++
        (Xml.attributesText as ++ (' ' :: key ++ '=' :: '"' :: value)))) = [] := by
  have hread := readAttributes_unclosed hkeys hvalues hne hkey hvalue
  have hends : (Xml.attributesText as ++ (' ' :: key ++ '=' :: '"' :: value)).head?.any
      endsTagName = true :=
    endsTagName_attributesText as rfl
  have hlex := lexMarkup_region region hends
  rw [hread] at hlex
  have hparse := parsePage_markup hlex
  have hfound := attributes_empty region
  rw [List.foldl_nil] at hparse
  rw [← hparse] at hfound
  exact regionAttributes_of_find? hfound

end

/-! ### Sections as they are written -/

/-- Attributes with their names and values as lists of characters, as `Xml.attributesText` takes
    them. -/
def attributeTexts (as : List (String × String)) : List (List Char × List Char) :=
  as.map fun a => (a.1.toList, a.2.toList)

namespace Section

/-- The section `s` as it is written: a start tag with its attributes, what is in it, and an end
    tag. -/
def write (region : Region) (s : Section) : String :=
  "<" ++ region.name ++
    String.join (s.attributes.map fun (name, value) => " " ++ name ++ "=\"" ++ value ++ "\"") ++
      ">" ++ s.inner ++ "</" ++ region.name ++ ">"

/-- The section `s` with its attributes in the order of their names, in which they are kept. -/
def sorted (s : Section) : Section :=
  { s with attributes := s.attributes.insertionSort fun a b => a.1 ≤ b.1 }

/-- A section `s` whose attributes can be written: their names are names in lower case, no two are
    the same, and nothing in their values needs to be escaped. -/
structure Writable (s : Section) : Prop where
  /-- A name has no character that ends it. -/
  names : ∀ a ∈ s.attributes, a.1 ≠ "" ∧ a.1.toList.all isKeyChar = true
  /-- It is in lower case. -/
  lower : ∀ a ∈ s.attributes, ∀ c ∈ a.1.toList, c.toLower = c ∧ c ≠ '\x00'
  /-- No two attributes have one name. -/
  distinct : (s.attributes.map Prod.fst).Nodup
  values : ∀ a ∈ s.attributes, ∀ c ∈ a.2.toList, c ≠ '"' ∧ c ≠ '&' ∧ c ≠ '\r' ∧ c ≠ '\x00'

/-- What comes of a section that is written for `region` and cut out again. -/
structure Recovers (region : Region) (s : Section) : Prop where
  /-- It is the section that was written, exactly if no value has a `>`. -/
  whole_iff : Html.section? region (s.write region) = some s.sorted ↔
    ∀ a ∈ s.attributes, '>' ∉ a.2.toList
  /-- The first `>` in a value is taken for the end of the start tag: all attributes are lost, and
      the rest of the start tag is taken for what is in the section. -/
  torn : ∀ before name value front back after, s.attributes = before ++ (name, value) :: after →
    (∀ a ∈ before, '>' ∉ a.2.toList) → value.toList = front ++ '>' :: back → '>' ∉ front →
      Html.section? region (s.write region) = some {
        inner := String.ofList (back ++ '"' :: (Xml.attributesText (attributeTexts after) ++
          '>' :: s.inner.toList)) }

/-- The characters of the written section `s`, one part after the other. -/
theorem toList_write (region : Region) (s : Section) : (s.write region).toList =
    '<' :: region.name.toList ++ (Xml.attributesText (attributeTexts s.attributes) ++
      '>' :: (s.inner.toList ++ ('<' :: '/' :: region.name.toList ++ ['>']))) := by
  have hattributes : (String.join (s.attributes.map fun (name, value) =>
      " " ++ name ++ "=\"" ++ value ++ "\"")).toList =
        Xml.attributesText (attributeTexts s.attributes) := by
    rw [String.toList_join, List.flatMap_map, Xml.attributesText, attributeTexts, List.flatMap_map]
    refine List.flatMap_congr fun a _ => ?_
    simp [Xml.attributeText]
  unfold write
  simp [hattributes]

variable {s : Section}

/-- The characters of a written section with a value that has a `>`, as the reader of sections takes
    them: a start tag up to this `>`, and content behind it. -/
theorem toList_write_split (region : Region) {before after : List (String × String)}
    {name value : String} {front back : List Char}
    (hattributes : s.attributes = before ++ (name, value) :: after)
    (hvalue : value.toList = front ++ '>' :: back) : (s.write region).toList =
      '<' :: region.name.toList ++ ((Xml.attributesText (attributeTexts before) ++
        (' ' :: name.toList ++ '=' :: '"' :: front)) ++ '>' ::
          (back ++ '"' :: (Xml.attributesText (attributeTexts after) ++ '>' :: s.inner.toList) ++
            ('<' :: '/' :: region.name.toList ++ ['>']))) := by
  rw [toList_write, hattributes]
  simp [attributeTexts, Xml.attributesText, Xml.attributeText, hvalue]

/-- What stands behind the name in a start tag begins with a blank, if `as` is not empty. -/
theorem isBlank_head_attributesText (as : List (List Char × List Char)) {rest : List Char}
    (hrest : ∀ c ∈ rest.head?, Text.isBlank c = true) :
    ∀ c ∈ (Xml.attributesText as ++ rest).head?, Text.isBlank c = true := by
  cases as with
  | nil => exact hrest
  | cons a as =>
    rintro c ⟨⟩
    decide

/-! ### Attributes of a section -/

/-- The keys of a section's attributes are read as they are written, so they have the characters of
    `isKeyChar`. -/
theorem Writable.keys (h : s.Writable) {as : List (String × String)} (has : as ⊆ s.attributes) :
    ∀ a ∈ attributeTexts as, a.1 ≠ [] ∧ a.1.all isKeyChar = true := by
  intro a ha
  obtain ⟨b, hb, rfl⟩ := List.mem_map.mp ha
  obtain ⟨hne, hchars⟩ := h.names b (has hb)
  exact ⟨fun hnil => hne (String.toList_eq_nil_iff.mp hnil), hchars⟩

/-- The values of a section's attributes `as` are free of quotes. -/
theorem Writable.unquoted (h : s.Writable) {as : List (String × String)} (has : as ⊆ s.attributes) :
    ∀ a ∈ attributeTexts as, '"' ∉ a.2 := by
  intro a ha hquote
  obtain ⟨b, hb, rfl⟩ := List.mem_map.mp ha
  exact (h.values b (has hb) _ hquote).1 rfl

/-- A value `v` without references, line ends and null characters is read as it is written. -/
theorem valueOf_plain {v : List Char} (h : ∀ c ∈ v, c ≠ '&' ∧ c ≠ '\r' ∧ c ≠ '\x00') :
    valueOf v = v := by
  unfold valueOf
  induction v with
  | nil => rfl
  | cons c v ih =>
    rw [List.forall_mem_cons] at h
    rw [decode, if_neg h.1.1, if_neg h.1.2.1, ih h.2, literal, if_neg h.1.2.2]

/-- An attribute `a` of a section is read as it is written. -/
theorem Writable.attributeOf_eq (h : s.Writable) {a : String × String} (ha : a ∈ s.attributes) :
    attributeOf (a.1.toList, a.2.toList) = { name := a.1, value := a.2 } := by
  have hlower : a.1.toList.map nameChar = a.1.toList := by
    refine (List.map_congr_left fun c hc => ?_).trans (List.map_id _)
    obtain ⟨hcase, hnull⟩ := h.lower a ha c hc
    rw [nameChar, if_neg hnull, hcase, id_eq]
  have hvalue : valueOf a.2.toList = a.2.toList :=
    valueOf_plain fun c hc => (h.values a ha c hc).2
  rw [attributeOf, hlower, hvalue, String.ofList_toList, String.ofList_toList]

/-- Attributes of different names are all held, each as it was written in `s`. -/
theorem Writable.heldAttributes_eq (h : s.Writable) :
    heldAttributes (attributeTexts s.attributes) =
      s.attributes.map fun a => { name := a.1, value := a.2 } := by
  have hall : ∀ as : List (List Char × List Char),
      as.Pairwise (fun a b => b.1.map nameChar ≠ a.1.map nameChar) → kept as = as := by
    intro as has
    induction has with
    | nil => rfl
    | cons hfirst _ ih =>
      rw [kept, ih, List.filter_eq_self.mpr fun b hb => decide_eq_true (hfirst b hb)]
  have hdistinct : (attributeTexts s.attributes).Pairwise
      fun a b => b.1.map nameChar ≠ a.1.map nameChar := by
    refine List.pairwise_map.mpr ?_
    refine (List.pairwise_map.mp h.distinct).imp_of_mem fun {a b} ha hb hne heq => hne ?_
    have hname := attributeOf_name_eq_iff.mpr heq
    rw [h.attributeOf_eq ha, h.attributeOf_eq hb] at hname
    exact hname.symm
  rw [Html.heldAttributes_eq, hall _ hdistinct, attributeTexts, List.map_map]
  exact List.map_congr_left fun a ha => h.attributeOf_eq ha

/-- **Attributes are kept sorted.** The ones that are read are those of the section `s`, in the
    order of their names. -/
theorem Writable.ofList_eq (h : s.Writable) :
    (Attributes.ofList (heldAttributes (attributeTexts s.attributes))).toList.map
      (fun a => (a.name, a.value)) = s.sorted.attributes := by
  rw [h.heldAttributes_eq]
  have hdistinct : (s.attributes.map fun a => ({ name := a.1, value := a.2 } : Attribute)).Pairwise
      fun a b => a.sameName b = false := by
    refine List.pairwise_map.mpr ((List.pairwise_map.mp h.distinct).imp fun hne => ?_)
    simp [Attribute.sameName, hne]
  have hperm := (Attributes.ofList_perm hdistinct).map fun a => (a.name, a.value)
  rw [List.map_map] at hperm
  have hsame : ((fun a : Attribute => (a.name, a.value)) ∘ fun a : String × String =>
      ({ name := a.1, value := a.2 } : Attribute)) = id := rfl
  rw [hsame, List.map_id] at hperm
  have hascending : ((Attributes.ofList (s.attributes.map fun a =>
      ({ name := a.1, value := a.2 } : Attribute))).toList.map fun a => (a.name, a.value)).Pairwise
        fun a b => a.1 ≤ b.1 := by
    refine List.pairwise_map.mpr (Attributes.ofList_ascending fun a ha => ?_)
    obtain ⟨b, -, rfl⟩ := List.mem_map.mp ha
    rfl
  have htotal : Std.Total fun a b : String × String => a.1 ≤ b.1 :=
    ⟨fun a b => String.le_total a.1 b.1⟩
  have htrans : IsTrans (String × String) fun a b => a.1 ≤ b.1 :=
    ⟨fun _ _ _ => String.le_trans⟩
  have hsorted : s.sorted.attributes.Pairwise fun a b => a.1 ≤ b.1 :=
    List.pairwise_insertionSort _ _
  -- two sorted lists of the same attributes, of which no two have one name
  refine List.Perm.eq_of_pairwise (fun a b ha hb hab hba => ?_) hascending hsorted
    (hperm.trans (List.perm_insertionSort _ _).symm)
  exact List.inj_on_of_nodup_map h.distinct (hperm.mem_iff.mp ha)
    ((List.mem_insertionSort _).mp hb) (String.le_antisymm hab hba)

/-! ### Cutting out -/

/-- A `>` among attributes stands in a value: names have none. -/
theorem Writable.gt_not_mem (h : s.Writable) {as : List (String × String)}
    (has : as ⊆ s.attributes) (hvalues : ∀ a ∈ as, '>' ∉ a.2.toList) :
    '>' ∉ Xml.attributesText (attributeTexts as) := by
  intro hmem
  obtain ⟨b, hb, hchar⟩ := List.mem_flatMap.mp hmem
  have hkey := (h.keys has b hb).2
  obtain ⟨a, ha, rfl⟩ := List.mem_map.mp hb
  simp only [Xml.attributeText, List.mem_append, List.mem_cons, List.not_mem_nil, or_false,
    List.cons_append, Char.reduceEq, false_or] at hchar
  rcases hchar with hchar | hchar
  · cases List.all_eq_true.mp hkey _ hchar
  · exact hvalues a ha hchar

/-- A section without a `>` in its values is cut out as it was written. -/
theorem Writable.section?_whole (h : s.Writable) (region : Region)
    (hvalues : ∀ a ∈ s.attributes, '>' ∉ a.2.toList) :
    Html.section? region (s.write region) = some s.sorted := by
  have hfront := h.gt_not_mem (List.Subset.refl _) hvalues
  have hblank : ∀ c ∈ (Xml.attributesText (attributeTexts s.attributes)).head?,
      Text.isBlank c = true := by
    rw [← List.append_nil (Xml.attributesText _)]
    exact isBlank_head_attributesText _ (by rintro c ⟨⟩)
  rw [section?_front region (toList_write region s) hfront hblank,
    regionAttributes_whole region (h.keys (List.Subset.refl _)) (h.unquoted (List.Subset.refl _)),
    h.ofList_eq, String.ofList_toList]
  rfl

/-- A section with a `>` in a value is torn there: the start tag is taken to end in the value of the
    attribute `name`, at the first `>` of all values. -/
theorem Writable.section?_torn (h : s.Writable) (region : Region)
    {before after : List (String × String)} {name value : String} {front back : List Char}
    (hattributes : s.attributes = before ++ (name, value) :: after)
    (hbefore : ∀ a ∈ before, '>' ∉ a.2.toList) (hvalue : value.toList = front ++ '>' :: back)
    (hfront : '>' ∉ front) : Html.section? region (s.write region) = some {
      inner := String.ofList (back ++ '"' :: (Xml.attributesText (attributeTexts after) ++
        '>' :: s.inner.toList)) } := by
  have hmem : (name, value) ∈ s.attributes := by rw [hattributes]; simp
  have hsub : before ⊆ s.attributes := by rw [hattributes]; simp
  obtain ⟨hne, hkey⟩ := h.names _ hmem
  have hkeyne : name.toList ≠ [] := fun hnil => hne (String.toList_eq_nil_iff.mp hnil)
  have hquote : '"' ∉ front ++ ['>'] := by
    -- the value ends the start tag, so it is not closed in it
    intro hquote
    refine (h.values _ hmem '"' ?_).1 rfl
    show '"' ∈ value.toList
    rw [hvalue]
    simp only [List.mem_append, List.mem_singleton] at hquote ⊢
    exact .inl (hquote.resolve_right (by decide))
  -- the start tag as far as it is found
  have hsplit := toList_write_split region hattributes hvalue
  have hgt : '>' ∉ Xml.attributesText (attributeTexts before) ++
      (' ' :: name.toList ++ '=' :: '"' :: front) := by
    have hname : '>' ∉ name.toList := fun hc => by
      cases List.all_eq_true.mp hkey _ hc
    simp [h.gt_not_mem hsub hbefore, hname, hfront]
  have hblank : ∀ c ∈ (Xml.attributesText (attributeTexts before) ++
      (' ' :: name.toList ++ '=' :: '"' :: front)).head?, Text.isBlank c = true := by
    refine isBlank_head_attributesText _ ?_
    rintro c ⟨⟩
    decide
  have htag : '<' :: region.name.toList ++ (Xml.attributesText (attributeTexts before) ++
      (' ' :: name.toList ++ '=' :: '"' :: front)) ++ ['>'] =
        '<' :: region.name.toList ++ (Xml.attributesText (attributeTexts before) ++
          (' ' :: name.toList ++ '=' :: '"' :: (front ++ ['>']))) := by
    simp
  rw [section?_front region hsplit hgt hblank, htag,
    regionAttributes_unclosed region (h.keys hsub) (h.unquoted hsub) hkeyne hkey hquote]

/-- **Writing a section and cutting it out.** It is recovered whole, or torn at the first `>` in a
    value. -/
theorem Writable.recovers (h : s.Writable) (region : Region) : s.Recovers region where
  whole_iff := by
    refine ⟨fun hwhole => ?_, h.section?_whole region⟩
    by_contra hsome
    push Not at hsome
    obtain ⟨a, ha, hgt⟩ := hsome
    -- the section is torn in the first value with a `>`
    have hfind : (s.attributes.find? fun a => a.2.toList.contains '>').isSome = true :=
      List.find?_isSome.mpr ⟨a, ha, by simpa using hgt⟩
    obtain ⟨⟨name, value⟩, hfind⟩ := Option.isSome_iff_exists.mp hfind
    obtain ⟨hmem, before, after, hattributes, hbefore⟩ := List.find?_eq_some_iff_append.mp hfind
    obtain ⟨front, back, hvalue, hfront⟩ := List.eq_append_cons_of_mem (by simpa using hmem)
    have htorn := h.section?_torn region hattributes (by simpa using hbefore) hvalue hfront
    -- the attributes are lost
    have hlost := congrArg Section.attributes (Option.some.inj (htorn.symm.trans hwhole))
    have hlength : s.sorted.attributes.length = s.attributes.length := List.length_insertionSort _ _
    rw [← hlost, hattributes] at hlength
    simp at hlength
  torn before name value front back after := h.section?_torn region

/-- A section with its attributes out of order, with a `<` in a value and with an end tag in it. -/
def menu : Section where
  attributes := [("onload", "a<b"), ("class", "x y")]
  inner := "<p></body>1<2"

/-- The section `menu` is cut out with its attributes in order. -/
theorem recovers_menu : menu.Writable ∧ menu.Recovers .body ∧
    Html.section? .body "<body onload=\"a<b\" class=\"x y\"><p></body>1<2</body>" =
      some { attributes := [("class", "x y"), ("onload", "a<b")], inner := "<p></body>1<2" } := by
  have hmenu : menu.Writable :=
    ⟨by decide, by simp [menu], by decide, by simp [menu]⟩
  have hrecovers := hmenu.recovers .body
  have hsorted : menu.sorted =
      { attributes := [("class", "x y"), ("onload", "a<b")], inner := "<p></body>1<2" } := by
    decide +kernel
  refine ⟨hmenu, hrecovers, ?_⟩
  rw [← hsorted]
  exact hrecovers.whole_iff.mpr (by decide)

/-- A section with a `>` in the value of its only attribute. -/
def arrow : Section where
  attributes := [("data-x", "a>b")]
  inner := "in"

/-- The attribute of `arrow` is lost, and a part of its start tag is taken for what is in it. -/
theorem torn_arrow : arrow.Writable ∧
    arrow.write .body = "<body data-x=\"a>b\">in</body>" ∧
    Html.section? .body "<body data-x=\"a>b\">in</body>" = some { inner := "b\">in" } ∧
    Html.section? .body "<body data-x=\"a>b\">in</body>" ≠ some arrow.sorted := by
  have harrow : arrow.Writable :=
    ⟨by decide, by simp [arrow], by decide, by simp [arrow]⟩
  refine ⟨harrow, ?_, ?_, ?_⟩
  · decide +kernel
  · decide +kernel
  · decide +kernel

end Section

end PagePatch.Html
