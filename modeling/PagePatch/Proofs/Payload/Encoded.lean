import PagePatch.Proofs.Payload.Regions
import PagePatch.Proofs.Payload.Wire

namespace PagePatch

/-!
# Encoded sections in broken payloads

A section that stands in character data is found in a broken payload, and the marks around the
character data are dropped without looking at what they belong to. So the section comes out whole
exactly if it holds no mark of its own and no end tag of an update.

* `NodeFree`, `EndFree` — texts in which no update node begins or ends;
* `dropCdataMarks_cdataText` — when dropping the marks gives the section back;
* `untilUpdateEnd_cdataText` — where the section ends;
* `ofRegions_updateText` — when it is read as it was meant.
-/

open Xml (cdataStart cdataEnd cdataText splitEnds splitEnds_cons splitEnds_append
  splitEnds_append_cons prefix_splitEnds_iff count_splitEnds)

/-! ### Dropping a text -/

namespace Text

/-- The text `s` starts with `pattern` if `pattern` is a prefix of it. -/
theorem startsWith_iff {pattern s : List Char} : startsWith pattern s = true ↔ pattern <+: s := by
  rw [startsWith, Option.isSome_iff_exists]
  simp only [dropPrefix?_eq_some_iff]
  exact ⟨fun ⟨rest, h⟩ => ⟨rest, h.symm⟩, fun ⟨rest, h⟩ => ⟨rest, h.symm⟩⟩

/-- The characters of an occurrence are passed over: the first `skip` characters of `s` are dropped,
    and the search goes on behind them. -/
theorem removeFrom_eq (pattern : List Char) (skip : Nat) (s : List Char) :
    removeFrom pattern skip s = removeAll pattern (s.drop skip) := by
  induction s generalizing skip with
  | nil => simp [removeAll, removeFrom]
  | cons c s ih =>
    cases skip with
    | zero => rfl
    | succ skip => exact ih skip

/-- An occurrence of `pattern` in front of `s` is dropped. -/
theorem removeAll_append {pattern : List Char} (hne : pattern ≠ []) (s : List Char) :
    removeAll pattern (pattern ++ s) = removeAll pattern s := by
  obtain ⟨c, tail, rfl⟩ := List.exists_cons_of_ne_nil hne
  have hfront : startsWith (c :: tail) (c :: (tail ++ s)) = true :=
    startsWith_iff.mpr ⟨s, rfl⟩
  rw [removeAll, List.cons_append, removeFrom]
  simp only [hfront, if_true, removeFrom_eq, List.length_cons, Nat.add_sub_cancel, List.drop_left]

/-- A character `c` is kept if no occurrence of `pattern` begins with it. -/
theorem removeAll_cons {pattern : List Char} {c : Char} {s : List Char}
    (h : ¬ pattern <+: c :: s) : removeAll pattern (c :: s) = c :: removeAll pattern s := by
  rw [removeAll, removeFrom]
  simp only [startsWith_iff, h, if_false]
  rfl

/-- A text `w` is kept as a whole if the first character `p` of the pattern is not among its
    characters. -/
theorem removeAll_pass {p : Char} {pattern w : List Char} (hw : p ∉ w) (s : List Char) :
    removeAll (p :: pattern) (w ++ s) = w ++ removeAll (p :: pattern) s := by
  induction w with
  | nil => rfl
  | cons c w ih =>
    rw [List.mem_cons, not_or] at hw
    have hfront : ¬ p :: pattern <+: c :: (w ++ s) := fun h => hw.1 (List.cons_prefix_cons.mp h).1
    rw [List.cons_append, removeAll_cons hfront, ih hw.2, List.cons_append]

/-- What `removeAll` leaves of a text is a part of it, in the same order. -/
theorem removeAll_sublist (pattern s : List Char) : (removeAll pattern s).Sublist s := by
  have hall : ∀ skip, (removeFrom pattern skip s).Sublist s := by
    induction s with
    | nil => exact fun _ => List.Sublist.refl []
    | cons c s ih =>
      intro skip
      unfold removeFrom
      split
      · exact (ih _).cons c
      · split
        · exact (ih _).cons c
        · exact (ih 0).cons_cons c
  exact hall 0

end Text

/-! ### Dropping the marks -/

/-- The text with every `]]>` in it written twice, the one inside the other. -/
def doubleEnds : List Char → List Char
  | ']' :: ']' :: '>' :: rest => ']' :: ']' :: (cdataEnd ++ '>' :: doubleEnds rest)
  | c :: rest => c :: doubleEnds rest
  | [] => []

/-- Where no `]]>` begins, `doubleEnds` keeps the first character. -/
theorem doubleEnds_cons {c : Char} {s : List Char} (h : ¬ cdataEnd <+: c :: s) :
    doubleEnds (c :: s) = c :: doubleEnds s := by
  rw [doubleEnds]
  rintro rest rfl rfl
  exact h ⟨rest, rfl⟩

/-- A text `w` without a `<` is kept in front of `s`, as no opening mark begins in it. -/
theorem removeAll_start {w : List Char} (hw : '<' ∉ w) (s : List Char) :
    Text.removeAll cdataStart (w ++ s) = w ++ Text.removeAll cdataStart s :=
  Text.removeAll_pass hw s

/-- Of a split `]]>` the opening mark in its middle is dropped, which brings the two closing marks
    together, one inside the other. -/
theorem removeAll_split (s : List Char) :
    Text.removeAll cdataStart (']' :: ']' :: (cdataEnd ++ cdataStart ++ '>' :: s)) =
      ']' :: ']' :: (cdataEnd ++ '>' :: Text.removeAll cdataStart s) := by
  have hbehind : Text.removeAll cdataStart (cdataStart ++ '>' :: s) =
      '>' :: Text.removeAll cdataStart s := by
    rw [Text.removeAll_append (by decide)]
    exact removeAll_start (w := ['>']) (by decide) s
  have hfront := removeAll_start (w := [']', ']'] ++ cdataEnd) (by decide) (cdataStart ++ '>' :: s)
  rw [hbehind] at hfront
  simpa using hfront

/-- So `doubleEnds s` is what is left of a split text `s` without its opening marks, if there was
    none in `s` itself. -/
theorem removeAll_splitEnds {s : List Char} (h : ¬ cdataStart <:+: s) :
    Text.removeAll cdataStart (splitEnds s ++ cdataEnd) = doubleEnds s ++ cdataEnd := by
  induction s using Xml.splitEnds.induct with
  | case1 tail ih =>
    have htail : ¬ cdataStart <:+: tail := fun hpart =>
      h (hpart.trans (List.suffix_append [']', ']', '>'] tail).isInfix)
    have htext : splitEnds (']' :: ']' :: '>' :: tail) ++ cdataEnd =
        ']' :: ']' :: (cdataEnd ++ cdataStart ++ '>' :: (splitEnds tail ++ cdataEnd)) := by
      rw [splitEnds]
      simp
    rw [htext, removeAll_split, ih htail, doubleEnds]
    simp
  | case2 c tail hsplit ih =>
    have hfront : ¬ cdataEnd <+: c :: tail := Xml.not_cdataEnd_prefix hsplit
    have hmark : ¬ cdataStart <+: splitEnds (c :: tail) ++ cdataEnd := fun hpart =>
      h ((prefix_splitEnds_iff (by decide) _ _).mp hpart).isInfix
    have htail : ¬ cdataStart <:+: tail := fun hpart =>
      h (hpart.trans (List.suffix_cons c tail).isInfix)
    rw [splitEnds_cons hfront, List.cons_append] at hmark ⊢
    rw [Text.removeAll_cons hmark, ih htail, doubleEnds_cons hfront, List.cons_append]
  | case3 => decide

/-- Doubling by `doubleEnds` keeps the first character `c` of a text. -/
theorem doubleEnds_head (c : Char) (tail : List Char) :
    ∃ rest, doubleEnds (c :: tail) = c :: rest := by
  by_cases hsplit : cdataEnd <+: c :: tail
  · obtain ⟨rest, hrest⟩ := hsplit
    obtain ⟨rfl, rfl⟩ := List.cons.inj hrest
    exact ⟨_, rfl⟩
  · exact ⟨_, doubleEnds_cons hsplit⟩

/-- A `]]>` whose first bracket stands before a doubled text is one of the text, as doubling keeps
    its first two characters, unless these begin a `]]>` of their own. -/
theorem cdataEnd_prefix_of_doubleEnds {c : Char} {tail : List Char}
    (h : cdataEnd <+: c :: (doubleEnds tail ++ cdataEnd)) : cdataEnd <+: c :: tail := by
  obtain ⟨rest, hrest⟩ := h
  obtain ⟨rfl, htail⟩ : ']' = c ∧ ']' :: '>' :: rest = doubleEnds tail ++ cdataEnd :=
    List.cons.inj hrest
  cases tail with
  | nil => exact absurd (List.cons.inj (List.cons.inj htail).2).1 (by decide)
  | cons y tail =>
    by_cases hsecond : cdataEnd <+: y :: tail
    · obtain ⟨behind, hbehind⟩ := hsecond
      obtain ⟨rfl, rfl⟩ := List.cons.inj hbehind
      exact absurd (List.cons.inj (List.cons.inj htail).2).1 (by decide)
    · rw [doubleEnds_cons hsecond, List.cons_append] at htail
      obtain ⟨rfl, hbehind⟩ := List.cons.inj htail
      cases tail with
      | nil => exact absurd (List.cons.inj hbehind).1 (by decide)
      | cons z tail =>
        obtain ⟨front, hz⟩ := doubleEnds_head z tail
        rw [hz, List.cons_append] at hbehind
        obtain ⟨rfl, -⟩ := List.cons.inj hbehind
        exact ⟨tail, rfl⟩

/-- When the closing marks are dropped from `doubleEnds s`, the text `s` itself is left. -/
theorem removeAll_doubleEnds (s : List Char) :
    Text.removeAll cdataEnd (doubleEnds s ++ cdataEnd) = s := by
  induction s using Xml.splitEnds.induct with
  | case1 tail ih =>
    have htext : doubleEnds (']' :: ']' :: '>' :: tail) ++ cdataEnd =
        ']' :: ']' :: (cdataEnd ++ '>' :: (doubleEnds tail ++ cdataEnd)) := by
      rw [doubleEnds]
      simp
    -- the inner one of the two is dropped, and its brackets do not begin another one
    rw [htext, Text.removeAll_cons (by simp [cdataEnd]), Text.removeAll_cons (by simp [cdataEnd]),
      Text.removeAll_append (by decide), Text.removeAll_cons (by simp [cdataEnd]), ih]
  | case2 c tail hsplit ih =>
    have hfront : ¬ cdataEnd <+: c :: tail := Xml.not_cdataEnd_prefix hsplit
    have hmark : ¬ cdataEnd <+: c :: (doubleEnds tail ++ cdataEnd) := fun h =>
      hfront (cdataEnd_prefix_of_doubleEnds h)
    rw [doubleEnds_cons hfront, List.cons_append, Text.removeAll_cons hmark, ih]
  | case3 => decide

/-- The number of brackets `[` left of the split text `s` when its opening marks are dropped. An
    opening mark has two of them and a closing mark has none, so they tell whether a mark of `s`
    itself was dropped. -/
def keptBrackets (s : List Char) : Nat :=
  (Text.removeAll cdataStart (splitEnds s ++ cdataEnd)).count '['

/-- An opening mark in front of `tail` is dropped together with its two brackets. -/
theorem keptBrackets_start (tail : List Char) :
    keptBrackets (cdataStart ++ tail) = keptBrackets tail := by
  rw [keptBrackets, splitEnds_append (by decide), List.append_assoc,
    Text.removeAll_append (by decide)]
  rfl

/-- A split `]]>` in front has no brackets: what `splitEnds` puts into it is dropped again. -/
theorem keptBrackets_end (tail : List Char) :
    keptBrackets (cdataEnd ++ tail) = keptBrackets tail := by
  have hsplit : splitEnds (cdataEnd ++ tail) =
      ']' :: ']' :: (cdataEnd ++ cdataStart ++ '>' :: splitEnds tail) := Xml.splitEnds.eq_1 tail
  have htext : splitEnds (cdataEnd ++ tail) ++ cdataEnd =
      ']' :: ']' :: (cdataEnd ++ cdataStart ++ '>' :: (splitEnds tail ++ cdataEnd)) := by
    rw [hsplit]
    simp
  rw [keptBrackets, htext, removeAll_split]
  simp [cdataEnd, keptBrackets]

/-- Any other character `c` in front is kept, and counts if it is a bracket. -/
theorem keptBrackets_cons {c : Char} {tail : List Char} (hmark : ¬ cdataStart <+: c :: tail)
    (hend : ¬ cdataEnd <+: c :: tail) :
    keptBrackets (c :: tail) = keptBrackets tail + if c = '[' then 1 else 0 := by
  have hfront : ¬ cdataStart <+: splitEnds (c :: tail) ++ cdataEnd := fun hpart =>
    hmark ((prefix_splitEnds_iff (by decide) _ _).mp hpart)
  rw [splitEnds_cons hend, List.cons_append] at hfront
  rw [keptBrackets, splitEnds_cons hend, List.cons_append, Text.removeAll_cons hfront,
    List.count_cons]
  simp [keptBrackets]

/-- An opening mark behind a closing one begins behind it, as `]]>` has no `<`. -/
theorem infix_of_infix_end {tail : List Char} (h : cdataStart <:+: cdataEnd ++ tail) :
    cdataStart <:+: tail := by
  have hskip : ∀ {c : Char} {s : List Char}, c ≠ '<' → cdataStart <:+: c :: s →
      cdataStart <:+: s := by
    intro c s hc h
    rcases List.infix_cons_iff.mp h with hprefix | hinfix
    · exact absurd (List.cons_prefix_cons.mp hprefix).1.symm hc
    · exact hinfix
  exact hskip (by decide) (hskip (by decide) (hskip (by decide) h))

/-- A text ends, or it begins with an opening mark, with a closing mark or with a character that
    begins neither. This is how `keptBrackets` goes through it. -/
theorem induction_marks {P : List Char → Prop} (nil : P [])
    (start : ∀ tail, P tail → P (cdataStart ++ tail))
    (close : ∀ tail, P tail → P (cdataEnd ++ tail))
    (cons : ∀ c tail, ¬ cdataStart <+: c :: tail → ¬ cdataEnd <+: c :: tail → P tail →
      P (c :: tail)) (s : List Char) : P s := by
  induction hlength : s.length using Nat.strong_induction_on generalizing s with
  | _ n ih =>
  subst hlength
  have hshorter : ∀ mark tail : List Char, mark ≠ [] → tail.length < (mark ++ tail).length := by
    intro mark tail hne
    rw [List.length_append]
    exact Nat.lt_add_of_pos_left (List.length_pos_iff.mpr hne)
  cases s with
  | nil => exact nil
  | cons c tail =>
    by_cases hmark : cdataStart <+: c :: tail
    · obtain ⟨behind, hbehind⟩ := hmark
      rw [← hbehind] at ih ⊢
      exact start behind (ih _ (hshorter cdataStart behind (by decide)) behind rfl)
    · by_cases hend : cdataEnd <+: c :: tail
      · obtain ⟨behind, hbehind⟩ := hend
        rw [← hbehind] at ih ⊢
        exact close behind (ih _ (hshorter cdataEnd behind (by decide)) behind rfl)
      · exact cons c tail hmark hend (ih _ (Nat.lt_succ_self _) tail rfl)

/-- An opening mark in front adds two brackets to those of the `tail`. -/
theorem count_start_append (tail : List Char) :
    (cdataStart ++ tail).count '[' = tail.count '[' + 2 := by
  rw [List.count_append, Nat.add_comm]
  rfl

/-- Dropping the marks adds no brackets to those of `s`. -/
theorem keptBrackets_le (s : List Char) : keptBrackets s ≤ s.count '[' := by
  induction s using induction_marks with
  | nil => decide
  | start tail ih =>
    rw [keptBrackets_start, count_start_append]
    omega
  | close tail ih =>
    rw [keptBrackets_end, List.count_append]
    omega
  | cons c tail hmark hend ih =>
    rw [keptBrackets_cons hmark hend, List.count_cons]
    simpa using ih

/-- **A text with an opening mark of its own loses brackets**, as this mark is dropped with the
    others: fewer are kept than `s` has. -/
theorem keptBrackets_lt {s : List Char} (h : cdataStart <:+: s) : keptBrackets s < s.count '[' := by
  induction s using induction_marks with
  | nil => exact absurd h (by decide)
  | start tail _ =>
    -- this is the mark that is lost, whatever becomes of the rest
    have := keptBrackets_le tail
    rw [keptBrackets_start, count_start_append]
    omega
  | close tail ih =>
    have := ih (infix_of_infix_end h)
    rw [keptBrackets_end, List.count_append]
    omega
  | cons c tail hmark hend ih =>
    rcases List.infix_cons_iff.mp h with hprefix | hinfix
    · exact absurd hprefix hmark
    · rw [keptBrackets_cons hmark hend, List.count_cons]
      simpa using ih hinfix

/-- **Dropping the marks gives the section `s` back** exactly if there is no opening mark in `s`
    itself. -/
theorem dropCdataMarks_cdataText {s : List Char} :
    dropCdataMarks (cdataText s) = s ↔ ¬ cdataStart <:+: s := by
  have hdrop : dropCdataMarks (cdataText s) =
      Text.removeAll cdataEnd (Text.removeAll cdataStart (splitEnds s ++ cdataEnd)) := by
    -- the mark in front of everything is dropped in any case
    rw [dropCdataMarks, cdataText, List.append_assoc]
    exact congrArg (Text.removeAll cdataEnd) (Text.removeAll_append (by decide) _)
  constructor
  · intro h hmark
    -- the brackets of the mark are lost, and dropping the closing marks brings none back
    have hlost := keptBrackets_lt hmark
    have hkept := (Text.removeAll_sublist cdataEnd
      (Text.removeAll cdataStart (splitEnds s ++ cdataEnd))).count_le '['
    rw [← hdrop, h] at hkept
    exact absurd hkept (Nat.not_le.mpr hlost)
  · intro h
    rw [hdrop, removeAll_splitEnds h, removeAll_doubleEnds]

/-! ### Where nodes begin -/

/-- The two quotes that an id can stand in; `quotedId?` ends it at either. -/
def isQuote (c : Char) : Bool :=
  c == '"' || c == '\''

/-- A start tag of an update node with the given `id`, as the search takes it. -/
inductive StartTag (id : List Char) : List Char → Prop
  /-- There may be blanks at four places, of which the first has to have some. The quotes `q` and
      `q'` need not be the same, and none stands in the id. -/
  | mk {b₁ b₂ b₃ b₄ : List Char} {q q' : Char} (hne : b₁ ≠ [])
    (hb₁ : b₁.all Text.isBlank = true) (hb₂ : b₂.all Text.isBlank = true)
    (hb₃ : b₃.all Text.isBlank = true) (hb₄ : b₄.all Text.isBlank = true)
    (hq : isQuote q = true) (hq' : isQuote q' = true) (hid : id ≠ [])
    (hquotes : ∀ c ∈ id, (!isQuote c) = true) :
    StartTag id ('<' :: ("update".toList ++ (b₁ ++ ("id".toList ++ (b₂ ++ ('=' :: (b₃ ++
      (q :: (id ++ (q' :: (b₄ ++ ['>'])))))))))))

/-- A text begins with the blanks that `dropWhile` passes over, and the rest of it stands behind
    them. -/
theorem blanks_append {s rest : List Char} (h : s.dropWhile Text.isBlank = rest) :
    ∃ b, b.all Text.isBlank = true ∧ s = b ++ rest :=
  ⟨_, List.all_takeWhile, by rw [← h, List.takeWhile_append_dropWhile]⟩

/-- The blanks `b` in front of another character `c` are passed over. -/
theorem dropWhile_blanks {b : List Char} (hb : b.all Text.isBlank = true) {c : Char}
    (hc : Text.isBlank c = false) (s : List Char) :
    (b ++ c :: s).dropWhile Text.isBlank = c :: s := by
  rw [List.dropWhile_append_of_pos (List.all_eq_true.mp hb),
    List.dropWhile_cons_of_neg (by simp [hc])]

/-- A quote `c` is no blank, so the blanks in front of an id end at its quote. -/
theorem isBlank_of_isQuote {c : Char} (h : isQuote c = true) : Text.isBlank c = false := by
  rw [isQuote, Bool.or_eq_true, beq_iff_eq, beq_iff_eq] at h
  rcases h with rfl | rfl <;> decide

/-- A word `c :: w` is found behind blanks exactly where it stands behind blanks, if its first
    character `c` is no blank itself. -/
theorem dropPrefix?_blanks_eq_some_iff {c : Char} (hc : Text.isBlank c = false)
    {w s rest : List Char} :
    Text.dropPrefix? (c :: w) (s.dropWhile Text.isBlank) = some rest ↔
      ∃ b, b.all Text.isBlank = true ∧ s = b ++ c :: (w ++ rest) := by
  rw [Text.dropPrefix?_eq_some_iff]
  constructor
  · exact blanks_append
  · rintro ⟨b, hb, rfl⟩
    exact dropWhile_blanks hb hc _

/-- The part of `updateStart?` behind the `=`: an id in quotes, and the end of the tag. -/
def quotedId? (s : List Char) : Option (List Char × List Char) :=
  match s.dropWhile Text.isBlank with
  | [] => none
  | q :: s =>
    if (!isQuote q || (s.takeWhile (!isQuote ·)).isEmpty ||
      (s.dropWhile (!isQuote ·)).isEmpty) = true then none
    else do
      let rest ← Text.dropPrefix? ['>'] (((s.dropWhile (!isQuote ·)).drop 1).dropWhile Text.isBlank)
      pure (s.takeWhile (!isQuote ·), rest)

/-- The search for a start tag in `s` passes its words one after the other, each behind blanks. -/
theorem updateStart?_eq (s : List Char) : updateStart? s =
    (Text.dropPrefix? "<update".toList s).bind fun s =>
      if (s.dropWhile Text.isBlank).length = s.length then none
      else (Text.dropPrefix? "id".toList (s.dropWhile Text.isBlank)).bind fun s =>
        (Text.dropPrefix? ['='] (s.dropWhile Text.isBlank)).bind quotedId? := by
  unfold updateStart? quotedId?
  rfl

/-- The text `id` up to a quote `q` and the text `rest` behind it, where the quote is the first one
    in `s`. -/
theorem span_quote_iff {s id rest : List Char} {q : Char} :
    (s.takeWhile (!isQuote ·) = id ∧ s.dropWhile (!isQuote ·) = q :: rest) ↔
      isQuote q = true ∧ (∀ c ∈ id, (!isQuote c) = true) ∧ s = id ++ q :: rest := by
  constructor
  · rintro ⟨rfl, hdrop⟩
    have hhead := List.head?_dropWhile_not (!isQuote ·) s
    rw [hdrop] at hhead
    refine ⟨by simpa using hhead, List.all_eq_true.mp List.all_takeWhile, ?_⟩
    rw [← hdrop, List.takeWhile_append_dropWhile]
  · rintro ⟨hq, hid, rfl⟩
    constructor
    · rw [List.takeWhile_append_of_pos hid, List.takeWhile_cons_of_neg (by simp [hq]),
        List.append_nil]
    · rw [List.dropWhile_append_of_pos hid, List.dropWhile_cons_of_neg (by simp [hq])]

/-- **The id is what stands between the two quotes**, and nothing but blanks stands around them. The
    quotes `q` and `q'` need not be the same. -/
theorem quotedId?_eq_some_iff {s id rest : List Char} : quotedId? s = some (id, rest) ↔
    ∃ b q q' b', b.all Text.isBlank = true ∧ b'.all Text.isBlank = true ∧ isQuote q = true ∧
      isQuote q' = true ∧ id ≠ [] ∧ (∀ c ∈ id, (!isQuote c) = true) ∧
      s = b ++ q :: (id ++ q' :: (b' ++ '>' :: rest)) := by
  constructor
  · intro h
    unfold quotedId? at h
    split at h
    · cases h
    rename_i q behind hquote
    split at h
    · cases h
    rename_i hfaults
    rw [Bool.or_eq_true, Bool.or_eq_true, not_or, not_or, Bool.not_eq_true', Bool.not_eq_false,
      List.isEmpty_iff, List.isEmpty_iff] at hfaults
    obtain ⟨⟨hq, hne⟩, hmore⟩ := hfaults
    obtain ⟨q', more, hdrop⟩ := List.exists_cons_of_ne_nil hmore
    obtain ⟨hq', hquotes, hbehind⟩ := span_quote_iff.mp ⟨rfl, hdrop⟩
    obtain ⟨found, hend, heq⟩ := Option.bind_eq_some_iff.mp h
    obtain ⟨rfl, rfl⟩ := Prod.mk.inj (Option.some.inj heq)
    rw [hdrop, List.drop_one, List.tail_cons] at hend
    obtain ⟨b', hb', rfl⟩ := (dropPrefix?_blanks_eq_some_iff (by decide)).mp hend
    obtain ⟨b, hb, rfl⟩ := blanks_append hquote
    exact ⟨b, q, q', b', hb, hb', hq, hq', hne, hquotes, congrArg (b ++ q :: ·) hbehind⟩
  · rintro ⟨b, q, q', b', hb, hb', hq, hq', hne, hquotes, rfl⟩
    obtain ⟨htake, hdrop⟩ := span_quote_iff.mpr
      ⟨hq', hquotes, (rfl : id ++ q' :: (b' ++ '>' :: rest) = _)⟩
    have hend : (b' ++ '>' :: rest).dropWhile Text.isBlank = '>' :: rest :=
      dropWhile_blanks hb' (by decide) rest
    unfold quotedId?
    rw [dropWhile_blanks hb (isBlank_of_isQuote hq)]
    simp only [htake, hdrop, hq, List.drop_one, List.tail_cons, hend]
    rw [if_neg (by simp [hne])]
    rfl

/-- A start tag in front of any `rest` is found by `updateStart?`. -/
theorem StartTag.updateStart? {id tag : List Char} (h : StartTag id tag) (rest : List Char) :
    updateStart? (tag ++ rest) = some (id, rest) := by
  obtain @⟨b₁, b₂, b₃, b₄, q, q', hne, hb₁, hb₂, hb₃, hb₄, hq, hq', hid, hquotes⟩ := h
  have hquoted : quotedId? (b₃ ++ q :: (id ++ q' :: (b₄ ++ '>' :: rest))) = some (id, rest) :=
    quotedId?_eq_some_iff.mpr ⟨b₃, q, q', b₄, hb₃, hb₄, hq, hq', hid, hquotes, rfl⟩
  rw [updateStart?_eq]
  refine Option.bind_eq_some_iff.mpr ⟨b₁ ++ 'i' :: 'd' :: (b₂ ++ '=' :: (b₃ ++ q :: (id ++ q' ::
    (b₄ ++ '>' :: rest)))), Text.dropPrefix?_eq_some_iff.mpr (by simp), ?_⟩
  -- without a blank the name of the tag would go on with the name of the attribute
  rw [if_neg (by rw [dropWhile_blanks hb₁ (by decide)]; simpa using hne)]
  refine Option.bind_eq_some_iff.mpr ⟨_, (dropPrefix?_blanks_eq_some_iff (by decide)).mpr
    ⟨b₁, hb₁, rfl⟩, Option.bind_eq_some_iff.mpr ⟨_, (dropPrefix?_blanks_eq_some_iff
      (by decide)).mpr ⟨b₂, hb₂, rfl⟩, hquoted⟩⟩

/-- What `updateStart?` finds is a start tag, at the beginning of the text `s`. -/
theorem startTag_of_updateStart? {s id rest : List Char} (h : updateStart? s = some (id, rest)) :
    ∃ tag, StartTag id tag ∧ s = tag ++ rest := by
  rw [updateStart?_eq] at h
  obtain ⟨s₁, hname, h⟩ := Option.bind_eq_some_iff.mp h
  split at h
  · cases h
  rename_i hspaced
  obtain ⟨s₂, hid, h⟩ := Option.bind_eq_some_iff.mp h
  obtain ⟨s₃, hequals, hquoted⟩ := Option.bind_eq_some_iff.mp h
  obtain ⟨b₁, hb₁, rfl⟩ :=
    (dropPrefix?_blanks_eq_some_iff (c := 'i') (w := ['d']) (by decide)).mp hid
  obtain ⟨b₂, hb₂, rfl⟩ := (dropPrefix?_blanks_eq_some_iff (by decide)).mp hequals
  obtain ⟨b₃, q, q', b₄, hb₃, hb₄, hq, hq', hne, hquotes, rfl⟩ := quotedId?_eq_some_iff.mp hquoted
  have hne₁ : b₁ ≠ [] := by
    rintro rfl
    exact hspaced rfl
  refine ⟨_, .mk hne₁ hb₁ hb₂ hb₃ hb₄ hq hq' hne hquotes, ?_⟩
  rw [Text.dropPrefix?_eq_some_iff.mp hname]
  simp

/-- **The search finds exactly the start tags**: `updateStart?` gives the `id` of the `tag` that the
    text begins with, and the `rest` of the text behind the tag. -/
theorem updateStart?_eq_some_iff {s id rest : List Char} :
    updateStart? s = some (id, rest) ↔ ∃ tag, StartTag id tag ∧ s = tag ++ rest := by
  constructor
  · exact startTag_of_updateStart?
  · rintro ⟨tag, htag, rfl⟩
    exact htag.updateStart? rest

/-- No update node begins in the text `s`: the search finds a start tag at none of its places. -/
def NodeFree (s : List Char) : Prop :=
  ∀ t, t <:+ s → updateStart? t = none

instance : DecidablePred NodeFree := fun s =>
  decidable_of_iff (∀ t ∈ s.tails, updateStart? t = none) (by simp [NodeFree])

/-- Where no node begins, at `c`, the search goes on with the next character. -/
theorem updateNodes_cons {c : Char} {s : List Char} (h : updateStart? (c :: s) = none) :
    updateNodes (c :: s) = updateNodes s := by
  have hnone : updateNode? (c :: s) = none := by
    rw [updateNode?, h]
    rfl
  rw [updateNodes, updateNodesFrom]
  simp only [hnone]
  rfl

/-- In a text `s` where no node begins the search finds none. -/
theorem updateNodes_of_nodeFree {s : List Char} (h : NodeFree s) : updateNodes s = [] := by
  induction s with
  | nil => rfl
  | cons c s ih =>
    rw [updateNodes_cons (h _ (List.suffix_refl _))]
    exact ih fun t ht => h t (ht.trans (List.suffix_cons c s))

/-- Two texts that are the same up to their first quotes `q` and `q'` are the same behind these
    quotes. -/
theorem split_quote {a b x y : List Char} {q q' : Char} (ha : ∀ c ∈ a, (!isQuote c) = true)
    (hb : ∀ c ∈ b, (!isQuote c) = true) (hq : isQuote q = true) (hq' : isQuote q' = true)
    (h : a ++ q :: x = b ++ q' :: y) : x = y := by
  have hleft := (span_quote_iff.mpr ⟨hq, ha, h.symm⟩).2
  have hright := (span_quote_iff.mpr ⟨hq', hb, (rfl : b ++ q' :: y = _)⟩).2
  exact (List.cons.inj (hleft.symm.trans hright)).2

/-- There is no angle bracket among the blanks `b`, so no tag begins there. -/
theorem not_mem_blanks {b : List Char} (hb : b.all Text.isBlank = true) : '<' ∉ b := fun hmem =>
  absurd (List.all_eq_true.mp hb _ hmem) (by decide)

/-- **Behind its first character, a start tag has an angle bracket only in its id.** So a tag that
    begins in the text `t` and goes on behind `t` with `<` has the quote that ends its id behind
    this bracket. -/
theorem StartTag.bracket {id t inner : List Char} (ht : t ≠ [])
    (h : StartTag id (t ++ '<' :: inner)) : ∃ front back q b, id = front ++ '<' :: back ∧
      isQuote q = true ∧ b.all Text.isBlank = true ∧ (∀ c ∈ back, (!isQuote c) = true) ∧
        inner = back ++ q :: (b ++ ['>']) := by
  generalize htag : t ++ '<' :: inner = tag at h
  obtain @⟨b₁, b₂, b₃, b₄, q, q', -, hb₁, hb₂, hb₃, hb₄, hq, hq', -, hquotes⟩ := h
  obtain ⟨x, t, rfl⟩ := List.exists_cons_of_ne_nil ht
  -- the first quote stands in front of the bracket, for the words before it have none
  have hfirst : t ++ '<' :: inner = ("update".toList ++ b₁ ++ "id".toList ++ b₂ ++ ['='] ++ b₃) ++
      q :: (id ++ q' :: (b₄ ++ ['>'])) := by
    rw [List.cons_append] at htag
    simpa only [List.append_assoc, List.cons_append, List.nil_append] using (List.cons.inj htag).2
  have hqlt : q ≠ '<' := by
    rintro rfl
    cases hq
  have hqlt' : '<' ≠ q' := by
    rintro rfl
    cases hq'
  obtain ⟨front, -, hfront⟩ := Text.split_before hfirst
    (by simp [not_mem_blanks hb₁, not_mem_blanks hb₂, not_mem_blanks hb₃]) hqlt
  -- so the bracket stands in the id, since there is none behind it
  rcases List.append_eq_append_iff.mp hfront with ⟨left, hleft, hrest⟩ | ⟨left, hleft, hrest⟩
  · have hmem : '<' ∈ q' :: (b₄ ++ ['>']) := hrest ▸ by simp
    simp [hqlt', not_mem_blanks hb₄] at hmem
  · cases left with
    | nil => exact absurd (List.cons.inj hrest).1.symm hqlt'.symm
    | cons y back =>
      obtain ⟨rfl, hinner⟩ := List.cons.inj hrest
      exact ⟨front, back, q', b₄, hleft, hq', hb₄, fun c hc => hquotes c (by simp [hleft, hc]),
        hinner⟩

/-- A start tag found where none begins in the text `t` alone goes on behind `t`. -/
theorem exists_inner_of_append {t : List Char} (h : updateStart? t = none)
    {id tag behind more : List Char} {c : Char} (htag : StartTag id tag)
    (heq : t ++ c :: more = tag ++ behind) :
    ∃ inner, tag = t ++ c :: inner ∧ more = inner ++ behind := by
  have hover : ∀ rest, t ≠ tag ++ rest := by
    rintro rest rfl
    rw [htag.updateStart?] at h
    cases h
  rcases List.append_eq_append_iff.mp heq with ⟨inner, htag, hrest⟩ | ⟨rest, hrest, -⟩
  · cases inner with
    | nil => exact absurd (by rw [htag, List.append_nil, List.append_nil]) (hover [])
    | cons x inner =>
      obtain ⟨rfl, hmore⟩ := List.cons.inj hrest
      exact ⟨inner, htag, hmore⟩
  · exact absurd hrest (hover rest)

/-- **A node behind the text `t` does not begin in `t`.** The quote in its own start tag would have
    to end the id. -/
theorem updateStart?_append {t : List Char} (ht : t ≠ []) (h : updateStart? t = none) {c : Char}
    (hc : Text.isBlank c = false) (hend : c ≠ '>') (rest : List Char) :
    updateStart? (t ++ '<' :: ("update id=".toList ++ '"' :: c :: rest)) = none := by
  cases hstart : updateStart? (t ++ '<' :: ("update id=".toList ++ '"' :: c :: rest)) with
  | none => rfl
  | some found =>
    obtain ⟨id, behind⟩ := found
    obtain ⟨tag, htag, heq⟩ := updateStart?_eq_some_iff.mp hstart
    obtain ⟨inner, rfl, hbehind⟩ := exists_inner_of_append h htag heq
    obtain ⟨front, back, q, b, -, hq, hb, hquotes, rfl⟩ := htag.bracket ht
    -- the quote that ends the id is the first one behind the bracket, which is that of the node
    have hall : "update id=".toList ++ '"' :: c :: rest = back ++ q :: (b ++ '>' :: behind) := by
      rw [hbehind]
      simp
    have hplain : "update id=".toList.all (!isQuote ·) = true := by decide
    have hbad : c :: rest = b ++ '>' :: behind :=
      split_quote (List.all_eq_true.mp hplain) hquotes rfl hq hall
    -- but behind it the tag would end, and the id of the node begins
    cases b with
    | nil => exact absurd (List.cons.inj hbad).1 hend
    | cons y b =>
      obtain ⟨rfl, -⟩ := List.cons.inj hbad
      rw [List.all_cons, Bool.and_eq_true, hc] at hb
      cases hb.1

/-- So the search goes through the text `s` and on to the node behind it. -/
theorem updateNodes_append {s : List Char} (h : NodeFree s) {c : Char}
    (hc : Text.isBlank c = false) (hend : c ≠ '>') (rest : List Char) :
    updateNodes (s ++ '<' :: ("update id=".toList ++ '"' :: c :: rest)) =
      updateNodes ('<' :: ("update id=".toList ++ '"' :: c :: rest)) := by
  induction s with
  | nil => rfl
  | cons x s ih =>
    have hnone := updateStart?_append (List.cons_ne_nil x s) (h _ (List.suffix_refl _)) hc hend rest
    rw [List.cons_append] at hnone ⊢
    rw [updateNodes_cons hnone]
    exact ih fun t ht => h t (ht.trans (List.suffix_cons x s))

/-! ### Where nodes end -/

/-- No update node ends in the text `s`: there is an end tag at none of its places. -/
def EndFree (s : List Char) : Prop :=
  ∀ t, t <:+ s → updateEnd? t = none

instance : DecidablePred EndFree := fun s =>
  decidable_of_iff (∀ t ∈ s.tails, updateEnd? t = none) (by simp [EndFree])

/-- An end tag is found at the beginning of `s` if `s` begins with one, which may have blanks `b`
    behind its name. -/
theorem updateEnd?_isSome_iff {s : List Char} : (updateEnd? s).isSome = true ↔
    ∃ b, b.all Text.isBlank = true ∧ "</update".toList ++ b ++ ['>'] <+: s := by
  rw [Option.isSome_iff_exists]
  constructor
  · rintro ⟨behind, h⟩
    unfold updateEnd? at h
    obtain ⟨s₁, hname, hend⟩ := Option.bind_eq_some_iff.mp h
    rw [Text.dropPrefix?_eq_some_iff] at hname hend
    obtain ⟨b, hb, rfl⟩ := blanks_append hend
    exact ⟨b, hb, behind, by rw [hname]; simp⟩
  · rintro ⟨b, hb, behind, rfl⟩
    refine ⟨behind, ?_⟩
    unfold updateEnd?
    refine Option.bind_eq_some_iff.mpr ⟨b ++ '>' :: behind, ?_, ?_⟩
    · exact Text.dropPrefix?_eq_some_iff.mpr (by simp)
    · rw [dropWhile_blanks hb (by decide)]
      rfl

/-- An end tag at the beginning of a split text is one of the text `s` itself, as `splitEnds` puts
    none of its characters into a tag. -/
theorem updateEnd?_splitEnds (s rest : List Char) :
    (updateEnd? (splitEnds s ++ ']' :: rest)).isSome = true ↔ (updateEnd? s).isSome = true := by
  rw [updateEnd?_isSome_iff, updateEnd?_isSome_iff]
  refine exists_congr fun b => and_congr_right fun hb => prefix_splitEnds_iff ?_ s rest
  intro hmem
  have hbracket : ']' ∈ b := by simpa using hmem
  exact absurd (List.all_eq_true.mp hb _ hbracket) (by decide)

/-- Where no node ends, the character `c` belongs to the node, and the search goes on behind it. -/
theorem untilUpdateEnd_cons {c : Char} {s inner behind : List Char}
    (h : updateEnd? (c :: s) = none) (hs : untilUpdateEnd s = some (inner, behind)) :
    untilUpdateEnd (c :: s) = some (c :: inner, behind) := by
  rw [untilUpdateEnd, h]
  simp only [hs, Option.map_some]

/-- A text `w` without a `<` belongs to the node as a whole, as no end tag begins in it. -/
theorem untilUpdateEnd_pass {w s inner behind : List Char} (hw : '<' ∉ w)
    (hs : untilUpdateEnd s = some (inner, behind)) :
    untilUpdateEnd (w ++ s) = some (w ++ inner, behind) := by
  induction w with
  | nil => exact hs
  | cons c w ih =>
    rw [List.mem_cons, not_or] at hw
    refine untilUpdateEnd_cons ?_ (ih hw.2)
    rw [← Option.not_isSome_iff_eq_none, updateEnd?_isSome_iff]
    rintro ⟨b, -, hprefix⟩
    exact hw.1 (List.cons_prefix_cons.mp hprefix).1

/-- An opening mark belongs to the node, as no end tag begins in it: it is added to `inner`. -/
theorem untilUpdateEnd_start {s inner behind : List Char}
    (hs : untilUpdateEnd s = some (inner, behind)) :
    untilUpdateEnd (cdataStart ++ s) = some (cdataStart ++ inner, behind) :=
  untilUpdateEnd_cons rfl (untilUpdateEnd_pass (w := "![CDATA[".toList) (by decide) hs)

/-- **A section `s` without an end tag is read to its end**, with all of the marks around it and in
    it. -/
theorem untilUpdateEnd_cdataText {s : List Char} (h : EndFree s) (rest : List Char) :
    untilUpdateEnd (cdataText s ++ ("</update>".toList ++ rest)) = some (cdataText s, rest) := by
  have hsplit : untilUpdateEnd (splitEnds s ++ (cdataEnd ++ ("</update>".toList ++ rest))) =
      some (splitEnds s ++ cdataEnd, rest) := by
    induction s using Xml.splitEnds.induct with
    | case1 tail ih =>
      have htail := ih fun t ht => h t (ht.trans (List.suffix_append [']', ']', '>'] tail))
      have hall := untilUpdateEnd_pass (w := [']', ']'] ++ cdataEnd) (by decide)
        (untilUpdateEnd_start (untilUpdateEnd_pass (w := ['>']) (by decide) htail))
      rw [splitEnds]
      simpa using hall
    | case2 c tail hsplit ih =>
      have hfront : ¬ cdataEnd <+: c :: tail := Xml.not_cdataEnd_prefix hsplit
      have htail := ih fun t ht => h t (ht.trans (List.suffix_cons c tail))
      have hnone : updateEnd? (splitEnds (c :: tail) ++
          (cdataEnd ++ ("</update>".toList ++ rest))) = none := by
        rw [← Option.not_isSome_iff_eq_none]
        intro hsome
        have hsome := (updateEnd?_splitEnds _ _).mp hsome
        rw [h _ (List.suffix_refl _)] at hsome
        cases hsome
      rw [splitEnds_cons hfront, List.cons_append] at hnone ⊢
      exact untilUpdateEnd_cons hnone htail
    | case3 => exact untilUpdateEnd_pass (w := cdataEnd) (by decide) rfl
  rw [cdataText, List.append_assoc, List.append_assoc, List.append_assoc]
  exact untilUpdateEnd_start hsplit

/-- The search stops at an end tag in front of `t` at the latest, so that what it finds is part of
    the text `before` it. -/
theorem untilUpdateEnd_append {t : List Char} (h : (updateEnd? t).isSome = true)
    (before : List Char) : ∃ inner behind,
    untilUpdateEnd (before ++ t) = some (inner, behind) ∧ inner <+: before := by
  have hstop : ∀ c s behind, updateEnd? (c :: s) = some behind →
      untilUpdateEnd (c :: s) = some ([], behind) := by
    intro c s behind hend
    rw [untilUpdateEnd, hend]
  induction before with
  | nil =>
    obtain ⟨behind, hbehind⟩ := Option.isSome_iff_exists.mp h
    cases t with
    | nil => cases hbehind
    | cons c t => exact ⟨[], behind, hstop c t behind hbehind, List.nil_prefix⟩
  | cons c before ih =>
    cases hend : updateEnd? (c :: (before ++ t)) with
    | some behind => exact ⟨[], behind, hstop c _ behind hend, List.nil_prefix⟩
    | none =>
      obtain ⟨inner, behind, hfound, hprefix⟩ := ih
      exact ⟨c :: inner, behind, untilUpdateEnd_cons hend hfound,
        List.cons_prefix_cons.mpr ⟨rfl, hprefix⟩⟩

/-- **A section `s` with an end tag loses some of its slashes**: the node ends at this tag, and
    dropping the marks brings none back. -/
theorem dropCdataMarks_of_end {s : List Char} (h : ¬ EndFree s) (rest : List Char) :
    ∃ inner behind, untilUpdateEnd (cdataText s ++ ("</update>".toList ++ rest)) =
      some (inner, behind) ∧ dropCdataMarks inner ≠ s := by
  obtain ⟨t, ⟨u, rfl⟩, hend⟩ : ∃ t, t <:+ s ∧ (updateEnd? t).isSome = true := by
    simp only [EndFree, not_forall] at h
    obtain ⟨t, ht, hend⟩ := h
    exact ⟨t, ht, Option.isSome_iff_ne_none.mpr hend⟩
  obtain ⟨b, -, tail, htail⟩ := updateEnd?_isSome_iff.mp hend
  obtain ⟨t, rfl⟩ : ∃ t', t = '<' :: '/' :: t' := ⟨_, htail.symm⟩
  have htext : cdataText (u ++ '<' :: '/' :: t) ++ ("</update>".toList ++ rest) =
      (cdataStart ++ splitEnds u) ++
        (splitEnds ('<' :: '/' :: t) ++ (cdataEnd ++ ("</update>".toList ++ rest))) := by
    rw [cdataText, splitEnds_append_cons (by decide)]
    simp
  obtain ⟨inner, behind, hfound, hprefix⟩ := untilUpdateEnd_append
    ((updateEnd?_splitEnds ('<' :: '/' :: t) (']' :: '>' :: ("</update>".toList ++ rest))).mpr hend)
    (cdataStart ++ splitEnds u)
  refine ⟨inner, behind, htext ▸ hfound, fun hdrop => ?_⟩
  -- marks have no slashes, so the slash of the end tag is missed
  have hdropped : (dropCdataMarks inner).count '/' ≤ inner.count '/' :=
    ((Text.removeAll_sublist _ _).trans (Text.removeAll_sublist _ _)).count_le '/'
  have hinner : inner.count '/' ≤ (cdataStart ++ splitEnds u).count '/' :=
    hprefix.sublist.count_le '/'
  have hstart : (cdataStart ++ splitEnds u).count '/' = u.count '/' := by
    rw [List.count_append, count_splitEnds (by decide)]
    exact Nat.zero_add _
  have hall : (u ++ '<' :: '/' :: t).count '/' = u.count '/' + (t.count '/' + 1) := by
    simp
  rw [hdrop] at hdropped
  omega

/-! ### Reading a section -/

/-- If the node that is found first is one of a region, it gives the first change, and the `others`
    give what follows it. -/
theorem ofRegions_of_node {reserved : ReservedIds} {raw : String} {id inner : List Char}
    {others : List (List Char × List Char)} (h : updateNodes raw.toList = (id, inner) :: others)
    (hregion : (reserved.classify (String.ofList id)).isRegion = true) :
    ∃ more : List Operation, (others = [] → more = []) ∧
      ChangeSet.ofRegions reserved raw = .ok {
        operations :=
          [.update (String.ofList id) (String.ofList (dropCdataMarks inner))] ++ more } := by
  have hfilter : ((id, inner) :: others).filter
      (fun node => (reserved.classify (String.ofList node.1)).isRegion) = (id, inner) ::
        others.filter (fun node => (reserved.classify (String.ofList node.1)).isRegion) :=
    List.filter_cons_of_pos hregion
  unfold ChangeSet.ofRegions
  simp only [h, hfilter]
  refine ⟨_, ?_, rfl⟩
  rintro rfl
  rfl

/-- The id `region` stands for a region and can be written between quotes as it is. -/
structure IsRegionId (region : String) : Prop where
  /-- It stands for a region. -/
  isRegion : (({} : ReservedIds).classify region).isRegion = true
  /-- Its first character is neither a blank nor the end of a tag. -/
  begins : ∃ c rest, region.toList = c :: rest ∧ Text.isBlank c = false ∧ c ≠ '>'
  /-- It has no quotes. -/
  quotes : '"' ∉ region.toList ∧ '\'' ∉ region.toList

/-- The usual ids of the three regions are such ids as `IsRegionId` asks for. -/
theorem isRegionId_of_mem {region : String}
    (h : region ∈ [({} : ReservedIds).head, ({} : ReservedIds).body, ({} : ReservedIds).root]) :
    IsRegionId region := by
  simp only [List.mem_cons, List.not_mem_nil, or_false] at h
  rcases h with rfl | rfl | rfl
  · exact ⟨by decide, ⟨'j', _, rfl, by decide, by decide⟩, by decide⟩
  · exact ⟨by decide, ⟨'j', _, rfl, by decide, by decide⟩, by decide⟩
  · exact ⟨by decide, ⟨'j', _, rfl, by decide, by decide⟩, by decide⟩

/-- What is `behind` a node is the end of the text that it was found in. -/
theorem untilUpdateEnd_suffix {s inner behind : List Char}
    (h : untilUpdateEnd s = some (inner, behind)) : behind <:+ s := by
  induction s generalizing inner with
  | nil => cases h
  | cons c s ih =>
    rw [untilUpdateEnd] at h
    split at h
    · rename_i hend
      obtain ⟨-, rfl⟩ := Prod.mk.inj (Option.some.inj h)
      obtain ⟨head, hsplit, -⟩ := end_of_updateEnd? hend
      exact ⟨'<' :: head ++ ['>'], by rw [hsplit]; simp⟩
    · obtain ⟨⟨first, rest⟩, hrest, heq⟩ := Option.map_eq_some_iff.mp h
      obtain ⟨-, rfl⟩ := Prod.mk.inj heq
      exact (ih hrest).trans (List.suffix_cons c s)

/-- **The node of a section is the first to be found** behind a text `pre` in which no node
    begins. -/
theorem updateNodes_section {pre s : List Char} (hpre : NodeFree pre) {region : String}
    (hregion : IsRegionId region) {rest inner behind : List Char}
    (hend : untilUpdateEnd (s ++ ("</update>".toList ++ rest)) = some (inner, behind)) :
    updateNodes (pre ++ updateText region.toList s ++ rest) =
      (region.toList, inner) :: updateNodes behind := by
  obtain ⟨c, id, hid, hblank, hclose⟩ := hregion.begins
  have hfront : "<update id=\"".toList ++ region.toList ++ "\">".toList ++
      (s ++ ("</update>".toList ++ rest)) = '<' :: ("update id=".toList ++ '"' :: c ::
        (id ++ '"' :: '>' :: (s ++ ("</update>".toList ++ rest)))) := by
    rw [hid]
    simp
  have hwritten : updateText region.toList s ++ rest = "<update id=\"".toList ++ region.toList ++
      "\">".toList ++ (s ++ ("</update>".toList ++ rest)) := by
    unfold updateText
    simp
  have hstart := updateStart?_written (by rw [hid]; exact List.cons_ne_nil c id)
    hregion.quotes.1 hregion.quotes.2 (s ++ ("</update>".toList ++ rest))
  have hsuffix : behind <:+ "update id=".toList ++ '"' :: c ::
      (id ++ '"' :: '>' :: (s ++ ("</update>".toList ++ rest))) :=
    (untilUpdateEnd_suffix hend).trans
      ⟨"update id=".toList ++ '"' :: c :: (id ++ ['"', '>']), by simp⟩
  rw [hfront] at hstart
  rw [List.append_assoc, hwritten, hfront, updateNodes_append hpre hblank hclose]
  refine updateNodes_of_node ?_ hsuffix
  rw [updateNode?, hstart]
  simp only [Option.bind_eq_bind, Option.bind_some, hend]
  rfl

/-- A change-set that begins with an update is the one with the update alone exactly if it is this
    update and there is nothing `more`. -/
theorem operations_eq_iff {target first markup : String} {more : List Operation} :
    (.ok { operations := [.update target first] ++ more } : Except PayloadFault ChangeSet) =
      .ok { operations := [.update target markup] } ↔ first = markup ∧ more = [] := by
  simp

/-- **A section is read as it was meant** exactly if none of the marks and none of the end tags
    belong to its `markup`, whatever stands around it: `pre` and `post` are texts where no node
    begins. -/
theorem ofRegions_updateText {pre post : List Char} (hpre : NodeFree pre) (hpost : NodeFree post)
    (markup : String) {region : String}
    (hregion :
      region ∈ [({} : ReservedIds).head, ({} : ReservedIds).body, ({} : ReservedIds).root]) :
    ChangeSet.ofRegions {} (String.ofList
        (pre ++ updateText region.toList (cdataText markup.toList) ++ post)) =
      .ok { operations := [.update region markup] } ↔
    ¬ cdataStart <:+: markup.toList ∧ EndFree markup.toList := by
  have hid := isRegionId_of_mem hregion
  have hclassify : (({} : ReservedIds).classify (String.ofList region.toList)).isRegion = true := by
    rw [String.ofList_toList]
    exact hid.isRegion
  by_cases hend : EndFree markup.toList
  · -- the node ends where it was meant to, and no other one follows
    have hnodes := updateNodes_section hpre hid (untilUpdateEnd_cdataText hend post)
    rw [← String.toList_ofList (l := pre ++ _ ++ post), updateNodes_of_nodeFree hpost] at hnodes
    obtain ⟨more, hmore, hread⟩ := ofRegions_of_node hnodes hclassify
    rw [hread, String.ofList_toList, operations_eq_iff, ← dropCdataMarks_cdataText,
      ← String.toList_inj, String.toList_ofList]
    exact and_congr_right fun _ => iff_of_true (hmore rfl) hend
  -- the node ends too early, and what is found of the section is not the whole of it
  · obtain ⟨inner, behind, hfound, hlost⟩ := dropCdataMarks_of_end hend post
    have hnodes := updateNodes_section hpre hid hfound
    rw [← String.toList_ofList (l := pre ++ _ ++ post)] at hnodes
    obtain ⟨more, -, hread⟩ := ofRegions_of_node hnodes hclassify
    rw [hread, String.ofList_toList, operations_eq_iff, ← String.toList_inj, String.toList_ofList]
    exact iff_of_false (fun h => hlost h.1) fun h => hend h.2

/-- Brackets of a script that ends like character data are put together again by `ofRegions`. -/
theorem ofRegions_brackets :
    (NodeFree "<changes><delete id='p'>".toList ∧ NodeFree "</changes>".toList ∧
      ({} : ReservedIds).body ∈
        [({} : ReservedIds).head, ({} : ReservedIds).body, ({} : ReservedIds).root]) ∧
    ChangeSet.ofRegions {} (String.ofList ("<changes><delete id='p'>".toList ++
        updateText ({} : ReservedIds).body.toList (cdataText "<script>a[b[0]]>1</script>".toList) ++
          "</changes>".toList)) =
      .ok { operations := [.update ({} : ReservedIds).body "<script>a[b[0]]>1</script>"] } :=
  ⟨by decide +kernel, (ofRegions_updateText (by decide +kernel) (by decide +kernel)
    "<script>a[b[0]]>1</script>" (by decide)).mpr (by decide +kernel)⟩

/-- A script that hides itself in character data loses its opening mark in `ofRegions`. -/
theorem mark_lost :
    ChangeSet.ofRegions {} (String.ofList (updateText ({} : ReservedIds).body.toList
        (cdataText "<script>//<![CDATA[\nf()\n//]]></script>".toList))) =
      .ok { operations := [.update ({} : ReservedIds).body "<script>//\nf()\n//]]></script>"] } ∧
    "<script>//\nf()\n//]]></script>" ≠ "<script>//<![CDATA[\nf()\n//]]></script>" :=
  ⟨by decide +kernel, by decide⟩

end PagePatch
