import Mathlib.Data.List.Basic
import PagePatch.Html.Lexer
import PagePatch.Proofs.Xml.Tag

namespace PagePatch.Html

/-!
# Texts as they are decoded

A text ends where a tag begins, a value at its quote. No reference reaches across such a character,
so what a text or a value is read as does not depend on what comes behind it.

* `isBound` — the characters that references end in front of;
* `readReference_append` — a reference is read from the text in front of them alone;
* `decode` — a whole text or value as it is read;
* `readTag_value`, `readAttributes_attributesText` — the values and the attributes of a tag;
* `readTag_unclosed` — a value whose quote is missing takes the tag along;
* `readNamedTag_append`, `lexMarkup_letter` — a tag is read from its name on.
-/

/-! ### Names of references -/

/-- The characters that references end in front of: a `<`, which begins a tag, and the two quotes,
    which end values. -/
def isBound (c : Char) : Bool :=
  c == '<' || c == '"' || c == '\''

/-- The bytes of the characters of `isBound` in a text in UTF-8. -/
def isBoundByte (b : UInt8) : Bool :=
  b == 60 || b == 34 || b == 39

/-- A text with the bound `c` has the byte of a bound. -/
theorem exists_isBoundByte {s : String} {c : Char} (hc : isBound c = true) (h : c ∈ s.toList) :
    s.toByteArray.data.toList.any isBoundByte = true := by
  have hbyte : ∃ b ∈ String.utf8EncodeChar c, isBoundByte b = true := by
    simp only [isBound, Bool.or_eq_true, beq_iff_eq] at hc
    rcases hc with (rfl | rfl) | rfl <;> decide
  obtain ⟨b, hb, hbound⟩ := hbyte
  have hmem : b ∈ s.toList.utf8Encode.data.toList := by
    rw [List.utf8Encode, List.data_toByteArray, List.toList_toArray]
    exact List.mem_flatMap.mpr ⟨c, h, hb⟩
  rw [String.utf8Encode_toList] at hmem
  exact List.any_eq_true.mpr ⟨b, hmem, hbound⟩

/-- None of the names of references has a byte of `isBoundByte`. The table of names is searched
    through by its bytes. -/
theorem referenceNames_unbound (first : Char) :
    (referenceNames first).all (fun e => !e.1.toByteArray.data.toList.any isBoundByte) = true := by
  unfold referenceNames
  split <;> decide +kernel

/-- So none of the names has the bound `c` among its characters. -/
theorem not_mem_of_referenceNames {c first : Char} (hc : isBound c = true)
    {e : String × String} (he : e ∈ referenceNames first) : c ∉ e.1.toList := by
  intro hmem
  have hnone := List.all_eq_true.mp (referenceNames_unbound first) e he
  rw [exists_isBoundByte hc hmem] at hnone
  cases hnone

/-! ### References in front of a bound -/

section Append

variable {c : Char} (hc : isBound c = true) (k : List Char)

include hc

/-- No character `x` that means something in references is a bound. -/
theorem isBound_ne {x : Char} (hx : isBound x = false) : c ≠ x := by
  rintro rfl
  rw [hc] at hx
  cases hx

/-- The bound `c` is no letter or digit. -/
theorem isAlphanum_of_isBound : c.isAlphanum = false := by
  simp only [isBound, Bool.or_eq_true, beq_iff_eq] at hc
  rcases hc with (rfl | rfl) | rfl <;> decide

/-- The bound `c` has no value as a digit, whatever the base. -/
theorem hexValue?_of_isBound : Text.hexValue? c = none := by
  simp only [isBound, Bool.or_eq_true, beq_iff_eq] at hc
  rcases hc with (rfl | rfl) | rfl <;> decide

omit hc

/-- A text `p` without the bound stands in front of what goes on behind the bound exactly if it
    stands in front of what ends there. -/
theorem startsWith_append {p : List Char} (hp : c ∉ p) (s : List Char) :
    Text.startsWith p (s ++ c :: k) = Text.startsWith p s := by
  unfold Text.startsWith
  induction p generalizing s with
  | nil => rfl
  | cons x p ih =>
    rw [List.mem_cons, not_or] at hp
    cases s with
    | nil => simp only [List.nil_append, Text.dropPrefix?, if_neg (Ne.symm hp.1)]
    | cons y s =>
      rw [List.cons_append, Text.dropPrefix?, Text.dropPrefix?]
      split
      · exact ih hp.2 s
      · rfl

/-- Such a text `p` shares as many characters with the one as with the other. -/
theorem sharedLength_append {p : List Char} (hp : c ∉ p) (s : List Char) :
    sharedLength p (s ++ c :: k) = sharedLength p s := by
  induction p generalizing s with
  | nil => cases s <;> rfl
  | cons x p ih =>
    rw [List.mem_cons, not_or] at hp
    cases s with
    | nil =>
      rw [List.nil_append, sharedLength, if_neg (Ne.symm hp.1)]
      rfl
    | cons y s =>
      rw [List.cons_append, sharedLength, sharedLength, ih hp.2 s]

/-- A search for characters of a kind `p` ends at a bound that is not of the kind. -/
theorem takeWhile_append_bound {p : Char → Bool} (hp : p c = false) (s : List Char) :
    (s ++ c :: k).takeWhile p = s.takeWhile p := by
  induction s with
  | nil => rw [List.nil_append, List.takeWhile_cons_of_neg (by simp [hp])]; rfl
  | cons x s ih => rw [List.cons_append, List.takeWhile_cons, List.takeWhile_cons, ih]

/-- Behind a part of the text `s` comes the rest of it, or the bound. -/
theorem head?_drop_append {n : Nat} {s : List Char} (h : n ≤ s.length) :
    ((s ++ c :: k).drop n).head? = (s.drop n).head?.or (some c) := by
  rw [List.drop_append_of_le_length h, List.head?_append]
  rfl

/-- A character `x` other than the bound comes next if it does so in the text `s` alone. -/
theorem head?_drop_append_eq_some {n : Nat} {s : List Char} (h : n ≤ s.length) {x : Char}
    (hx : c ≠ x) :
    ((s ++ c :: k).drop n).head? = some x ↔ (s.drop n).head? = some x := by
  rw [head?_drop_append k h]
  cases (s.drop n).head? with
  | none => simp [hx]
  | some y => rfl

include hc

/-- The digits of a number end in front of the bound `c`, whatever `k` stands behind it. -/
theorem readNumber_append (base taken : Nat) (s : List Char) :
    readNumber base taken (s ++ c :: k) = readNumber base taken s := by
  have hdigits : (s ++ c :: k).takeWhile (fun c => (Text.hexValue? c).any (· < base)) =
      s.takeWhile fun c => (Text.hexValue? c).any (· < base) :=
    takeWhile_append_bound k (by rw [hexValue?_of_isBound hc]; rfl) s
  have hlength : (s.takeWhile fun c => (Text.hexValue? c).any (· < base)).length ≤ s.length :=
    (List.takeWhile_sublist _).length_le
  have hsemicolon := head?_drop_append_eq_some k hlength (isBound_ne hc (x := ';') rfl)
  unfold readNumber
  simp only [hdigits, Bool.beq_eq_decide_eq, hsemicolon]

/-- So does the search for the longest name that stands in front of `s`. -/
theorem longestName_append {first : Char} (s : List Char) :
    longestName (s ++ c :: k) (referenceNames first) = longestName s (referenceNames first) := by
  unfold longestName
  refine List.foldl_ext _ _ _ fun best e he => ?_
  rw [startsWith_append k (not_mem_of_referenceNames hc he)]

omit hc in
/-- The longest name `e` that is found stands in front of the text. -/
theorem startsWith_of_longestName {s : List Char} {names : List (String × String)}
    {e : String × String} (h : longestName s names = some e) :
    Text.startsWith e.1.toList s = true := by
  unfold longestName at h
  have hall : ∀ b, names.foldl (fun best entry =>
      if Text.startsWith entry.1.toList s && best.all (·.1.length < entry.1.length) then
        some entry else best) none = some b → Text.startsWith b.1.toList s = true := by
    refine List.foldlRecOn (motive := fun best : Option (String × String) =>
      ∀ b, best = some b → Text.startsWith b.1.toList s = true) _ _ nofun ?_
    intro best hbest entry _ b hb
    split at hb
    · rename_i hfront
      rw [← Option.some.inj hb]
      exact (Bool.and_eq_true_iff.mp hfront).1
    · exact hbest b hb
  exact hall e h

omit hc in
/-- A text `p` that stands in front of `s` is no longer than `s`. -/
theorem length_le_of_startsWith {p s : List Char} (h : Text.startsWith p s = true) :
    p.length ≤ s.length := by
  unfold Text.startsWith at h
  induction p generalizing s with
  | nil => exact Nat.zero_le _
  | cons x p ih =>
    cases s with
    | nil => cases h
    | cons y s =>
      rw [Text.dropPrefix?] at h
      split at h
      · exact Nat.succ_le_succ (ih h)
      · cases h

omit hc in
/-- Nor is what `p` shares with `s` at the front. -/
theorem sharedLength_le (p s : List Char) : sharedLength p s ≤ s.length := by
  induction p generalizing s with
  | nil => exact Nat.zero_le _
  | cons x p ih =>
    cases s with
    | nil => exact Nat.zero_le _
    | cons y s =>
      rw [sharedLength]
      split
      · exact Nat.succ_le_succ (ih s)
      · exact Nat.zero_le _

omit hc in
/-- The reader of `names` stops in the text `s`, not behind it. -/
theorem nameStop_le (found : Bool) (names : List (String × String)) (s : List Char) :
    nameStop found names s ≤ s.length := by
  have hshared := List.foldlRecOn (motive := (· ≤ s.length)) names
    (fun n entry => max n (sharedLength entry.1.toList s)) (Nat.zero_le _)
    fun _ hn _ _ => Nat.max_le.mpr ⟨hn, sharedLength_le _ _⟩
  have hmore := (List.takeWhile_sublist (p := Char.isAlphanum) (l := s.drop
    (names.foldl (fun n entry => max n (sharedLength entry.1.toList s)) 0))).length_le
  rw [List.length_drop] at hmore
  unfold nameStop
  dsimp only
  split
  · exact hshared
  · omega

/-- The reader of names stops at the same place whatever `k` stands behind the bound `c`. -/
theorem nameStop_append (found : Bool) {first : Char} (s : List Char) :
    nameStop found (referenceNames first) (s ++ c :: k) =
      nameStop found (referenceNames first) s := by
  have hshared : (referenceNames first).foldl
        (fun n entry => max n (sharedLength entry.1.toList (s ++ c :: k))) 0 =
      (referenceNames first).foldl (fun n entry => max n (sharedLength entry.1.toList s)) 0 := by
    refine List.foldl_ext _ _ _ fun n e he => ?_
    rw [sharedLength_append k (not_mem_of_referenceNames hc he)]
  have hle := nameStop_le true (referenceNames first) s
  unfold nameStop at hle ⊢
  rw [if_pos rfl] at hle
  simp only [hshared]
  rw [List.drop_append_of_le_length hle, takeWhile_append_bound k (isAlphanum_of_isBound hc)]

/-- A carriage return is taken along from the text `s` in front of the bound alone. -/
theorem takeReturn_append (place : Place) {stop : Nat} {s : List Char} (h : stop ≤ s.length)
    (r : Reference) : r.takeReturn place stop (s ++ c :: k) = r.takeReturn place stop s := by
  unfold Reference.takeReturn
  simp only [ne_eq, head?_drop_append_eq_some k h (isBound_ne hc (x := '\r') rfl),
    List.take_append_of_le_length h]

/-- A name is read from the text `s` in front of a bound, whatever follows. -/
theorem readName_append (place : Place) {first : Char} (s : List Char) :
    readName place (referenceNames first) (s ++ c :: k) =
      readName place (referenceNames first) s := by
  unfold readName
  simp only [longestName_append hc, nameStop_append hc,
    takeReturn_append hc k place (nameStop_le _ _ s)]
  cases hfound : longestName s (referenceNames first) with
  | none => rfl
  | some e =>
    have hlength : e.1.length ≤ s.length := by
      have hle := length_le_of_startsWith (startsWith_of_longestName hfound)
      rwa [String.length_toList] at hle
    have hnext : ((s ++ c :: k).drop e.1.length).head?.any (fun c => c == '=' || c.isAlphanum) =
        (s.drop e.1.length).head?.any fun c => c == '=' || c.isAlphanum := by
      rw [head?_drop_append k hlength]
      cases (s.drop e.1.length).head? with
      | none =>
        -- what follows the name in the text is the bound, which does not go on with it
        have hne : c ≠ '=' := isBound_ne hc rfl
        simp [hne, isAlphanum_of_isBound hc]
      | some y => rfl
    simp only [hnext]

/-- Without names there is no reference, whatever the `place`. -/
theorem readName_nil (place : Place) : readName place [] (c :: k) = .ampersand := by
  have hstop : nameStop false [] (c :: k) = 0 := by
    unfold nameStop
    simp [isAlphanum_of_isBound hc]
  have hreturn : ¬ some c = some '\r' := fun h => isBound_ne hc rfl (Option.some.inj h)
  unfold readName
  show Reference.takeReturn place (nameStop false [] (c :: k)) (c :: k) .ampersand = .ampersand
  rw [hstop]
  exact if_pos hreturn

omit hc in
/-- Digits may follow a number sign directly; `x` or `X` would ask for another base. -/
theorem readReference_decimal (place : Place) {s : List Char} (hs : s.head? ≠ some 'x')
    (hs' : s.head? ≠ some 'X') : readReference place ('#' :: s) = readNumber 10 1 s := by
  rw [readReference]
  · rintro t rfl
    exact hs rfl
  · rintro t rfl
    exact hs' rfl

omit hc in
/-- A name begins with a character `x` other than the number sign. -/
theorem readReference_name (place : Place) {x : Char} (hx : x ≠ '#') (s : List Char) :
    readReference place (x :: s) = readName place (referenceNames x) (x :: s) := by
  rw [readReference]
  · exact fun _ h => absurd h hx
  · exact fun _ h => absurd h hx
  · exact hx

/-- **A reference is read from the text in front of a bound alone,** whatever `k` stands behind the
    bound `c`. -/
theorem readReference_append (place : Place) (s : List Char) :
    readReference place (s ++ c :: k) = readReference place s := by
  have hne : ∀ {x : Char}, isBound x = false → (c :: k).head? ≠ some x :=
    fun hx h => isBound_ne hc hx (Option.some.inj h)
  cases s with
  | nil =>
    have hnames : referenceNames c = [] := by
      simp only [isBound, Bool.or_eq_true, beq_iff_eq] at hc
      rcases hc with (rfl | rfl) | rfl <;> rfl
    rw [List.nil_append, readReference_name place (isBound_ne hc rfl), hnames, readName_nil hc]
    rfl
  | cons x s =>
    by_cases hx : x = '#'
    · subst hx
      cases s with
      | nil =>
        rw [List.cons_append, List.nil_append, readReference_decimal place (hne rfl) (hne rfl),
          readReference_decimal place (by decide) (by decide)]
        exact readNumber_append hc k 10 1 []
      | cons y s =>
        -- an `x` behind the number sign makes the digits hexadecimal
        by_cases hhex : y = 'x' ∨ y = 'X'
        · rcases hhex with rfl | rfl
          · exact readNumber_append hc k 16 2 s
          · exact readNumber_append hc k 16 2 s
        · rw [not_or] at hhex
          have hfirst : ∀ t : List Char, (y :: t).head? ≠ some 'x' ∧ (y :: t).head? ≠ some 'X' :=
            fun t => ⟨fun h => hhex.1 (Option.some.inj h), fun h => hhex.2 (Option.some.inj h)⟩
          rw [List.cons_append, List.cons_append,
            readReference_decimal place (hfirst _).1 (hfirst _).2,
            readReference_decimal place (hfirst _).1 (hfirst _).2]
          exact readNumber_append hc k 10 1 (y :: s)
    · rw [List.cons_append, readReference_name place hx, readReference_name place hx]
      exact readName_append hc k place (x :: s)

end Append

/-! ### The length of a reference -/

/-- A number takes no more than its sign, `taken` characters, and the text `s` behind that. -/
theorem readNumber_length_le (base taken : Nat) (s : List Char) :
    (readNumber base taken s).length ≤ taken + s.length := by
  have hdigits := (List.takeWhile_sublist (p := fun c => (Text.hexValue? c).any (· < base))
    (l := s)).length_le
  unfold readNumber
  dsimp only
  split
  · exact Nat.zero_le _
  · split
    · rename_i hsemicolon
      rw [beq_iff_eq] at hsemicolon
      have hmore : s.drop (s.takeWhile fun c => (Text.hexValue? c).any (· < base)).length ≠ [] := by
        intro hnil
        rw [hnil] at hsemicolon
        cases hsemicolon
      have hlt := List.length_pos_iff.mpr hmore
      rw [List.length_drop] at hlt
      dsimp only
      omega
    · dsimp only
      omega

/-- A carriage return that `takeReturn` takes along behind a name is part of the text. -/
theorem takeReturn_length_le (place : Place) (stop : Nat) {s : List Char} {r : Reference}
    (hr : r.length ≤ s.length) : (r.takeReturn place stop s).length ≤ s.length := by
  unfold Reference.takeReturn
  split
  · exact hr
  · rename_i hreturn
    have hmore : s.drop stop ≠ [] := by
      intro hnil
      rw [hnil] at hreturn
      exact hreturn nofun
    have hlt := List.length_pos_iff.mpr hmore
    rw [List.length_drop] at hlt
    split
    · dsimp only
      omega
    · split
      · exact hr
      · dsimp only
        omega

/-- A name is part of the text `s`. -/
theorem readName_length_le (place : Place) (names : List (String × String)) (s : List Char) :
    (readName place names s).length ≤ s.length := by
  unfold readName
  refine takeReturn_length_le place _ ?_
  cases hfound : longestName s names with
  | none => exact Nat.zero_le _
  | some e =>
    dsimp only
    split
    · exact Nat.zero_le _
    · have hle := length_le_of_startsWith (startsWith_of_longestName hfound)
      rwa [String.length_toList] at hle

/-- **A reference is part of the text** `s` behind its ampersand. -/
theorem readReference_length_le (place : Place) (s : List Char) :
    (readReference place s).length ≤ s.length := by
  unfold readReference
  split
  · exact Nat.le_trans (readNumber_length_le 16 2 _) (by simp only [List.length_cons]; omega)
  · exact Nat.le_trans (readNumber_length_le 16 2 _) (by simp only [List.length_cons]; omega)
  · exact Nat.le_trans (readNumber_length_le 10 1 _) (by simp only [List.length_cons]; omega)
  · exact readName_length_le _ _ _
  · exact Nat.zero_le _

/-! ### Decoding -/

/-- A text with its references and line ends read, as far as `place` lets them. `plain` says what
    becomes of other characters, and `skip` counts the characters of the last reference that are
    still to be passed. -/
def decode (place : Place) (plain : Char → Char) (skip : Nat) : List Char → List Char
  | [] => []
  | c :: rest =>
    match skip with
    | skip + 1 => decode place plain skip rest
    | 0 =>
      if c = '&' then
        (readReference place rest).characters ++
          decode place plain (readReference place rest).length rest
      else if c = '\r' then
        '\n' :: decode place plain (if rest.head? = some '\n' then 1 else 0) rest
      else plain c :: decode place plain 0 rest

/-- The first `skip` characters are passed, and the others are decoded. -/
theorem decode_eq (place : Place) (plain : Char → Char) (skip : Nat) (s : List Char) :
    decode place plain skip s = decode place plain 0 (s.drop skip) := by
  induction s generalizing skip with
  | nil => rw [List.drop_nil]; rfl
  | cons c s ih =>
    cases skip with
    | zero => rfl
    | succ skip => exact ih skip

/-- A text as the reader of pages takes it in: `decode` of it without its null characters. -/
def textOf (s : List Char) : List Char :=
  (decode .text id 0 s).filter (· ≠ '\x00')

/-- The value of an attribute in quotes as the reader of tags takes it in, by `decode` with
    `literal` characters. -/
def valueOf (s : List Char) : List Char :=
  decode .quoted literal 0 s

/-- A carriage return takes along a line feed behind it, which is part of the text `s`. -/
theorem lineFeed_le_length (s : List Char) : (if s.head? = some '\n' then 1 else 0) ≤ s.length := by
  split
  · rename_i hhead
    cases s with
    | nil => cases hhead
    | cons y s => exact Nat.le_add_left 1 _
  · exact Nat.zero_le _

/-- The reader of tags goes on in a value, of which it has taken in the characters `read` and has
    `skip` characters of a reference still to pass, up to the quote. -/
theorem readTag_quoted (as : List Attribute) (name : List Char) {quote : Char}
    (hquote : isBound quote = true) {value : List Char} (hvalue : quote ∉ value)
    (rest read : List Char) {skip : Nat} (hskip : skip ≤ value.length) :
    readTag as (.quoted name quote read) skip (value ++ quote :: rest) =
      readTag (addAttribute as name ((decode .quoted literal skip value).reverse ++ read))
        .afterQuoted 0 rest := by
  induction value generalizing skip read with
  | nil =>
    obtain rfl : skip = 0 := Nat.le_zero.mp hskip
    rw [List.nil_append, readTag]
    simp only [closeTag, ite_self, tagStep, quotedStep, if_true]
    rfl
  | cons c value ih =>
    rw [List.mem_cons, not_or] at hvalue
    cases skip with
    | succ skip => exact ih hvalue.2 read (Nat.le_of_succ_le_succ hskip)
    | zero =>
      rw [List.cons_append, readTag, decode]
      simp only [closeTag, ite_self, tagStep, quotedStep, if_neg (Ne.symm hvalue.1)]
      by_cases hamp : c = '&'
      · -- the reference ends in front of the quote, so it is the same without it
        simp only [if_pos hamp, readReference_append hquote]
        rw [ih hvalue.2 _ (readReference_length_le _ _), List.reverse_append, List.append_assoc]
      · simp only [if_neg hamp]
        by_cases hreturn : c = '\r'
        · -- the quote is no line feed that would be taken along
          have hfeed : (value ++ quote :: rest).head? = some '\n' ↔ value.head? = some '\n' :=
            head?_drop_append_eq_some (n := 0) rest (Nat.zero_le _) (isBound_ne hquote rfl)
          simp only [if_pos hreturn, hfeed]
          rw [ih hvalue.2 _ (lineFeed_le_length value), List.reverse_cons, List.append_assoc]
          rfl
        · simp only [if_neg hreturn]
          rw [ih hvalue.2 _ (Nat.zero_le _), List.reverse_cons, List.append_assoc]
          rfl

/-- **A value is read up to its quote.** What the reader of tags keeps of it is `valueOf value`. -/
theorem readTag_value (as : List Attribute) (name : List Char) {quote : Char}
    (hquote : isBound quote = true) {value : List Char} (hvalue : quote ∉ value)
    (rest : List Char) :
    readTag as (.quoted name quote []) 0 (value ++ quote :: rest) =
      readTag (addAttribute as name (valueOf value).reverse) .afterQuoted 0 rest := by
  have hwhole := readTag_quoted as name hquote hvalue rest [] (Nat.zero_le _)
  rwa [List.append_nil] at hwhole

/-! ### Attributes -/

/-- The characters of keys: none that means something to `tagStep` behind a name. -/
def isKeyChar (c : Char) : Bool :=
  !isSpace c && c != '/' && c != '=' && c != '>'

/-- The attribute that is read where the key and the value of `a` are written. -/
def attributeOf (a : List Char × List Char) : Attribute where
  name := String.ofList (a.1.map nameChar)
  value := String.ofList (valueOf a.2)

/-- Adds the attribute `a` behind those that are held, unless there is one of its name among
    them. -/
def hold (as : List Attribute) (a : Attribute) : List Attribute :=
  if as.any (·.name == a.name) then as else as ++ [a]

/-- The attributes that a tag holds when `as` are written in it: the first of every name. -/
def heldAttributes (as : List (List Char × List Char)) : List Attribute :=
  (as.map attributeOf).foldl hold []

/-- A character other than `>` is taken in by the step of the mode, which says how to go on. -/
theorem readTag_cons {as : List Attribute} {mode : TagMode} {c : Char} (hc : c ≠ '>')
    (rest : List Char) : readTag as mode 0 (c :: rest) =
      readTag (tagStep as mode c rest).attributes (tagStep as mode c rest).mode
        (tagStep as mode c rest).skip rest := by
  rw [readTag]
  simp only [if_neg hc]

/-- The `key` is read up to its equals sign, letter by letter and in lower case. -/
theorem readTag_key {key : List Char} (hkey : key.all isKeyChar = true) (as : List Attribute)
    (read rest : List Char) : readTag as (.name read) 0 (key ++ '=' :: rest) =
      readTag as (.beforeValue ((key.map nameChar).reverse ++ read) false) 0 rest := by
  induction key generalizing read with
  | nil => rfl
  | cons c key ih =>
    rw [List.all_cons, Bool.and_eq_true] at hkey
    have hc : isSpace c = false ∧ c ≠ '/' ∧ c ≠ '=' ∧ c ≠ '>' := by
      simpa [isKeyChar, and_assoc] using hkey.1
    have hstep : tagStep as (.name read) c (key ++ '=' :: rest) =
        ⟨as, .name (nameChar c :: read), 0⟩ := by
      simp [tagStep, hc]
    rw [List.cons_append, readTag_cons hc.2.2.2, hstep, ih hkey.2, List.map_cons,
      List.reverse_cons, List.append_assoc]
    rfl

/-- A blank, the `key`, an equals sign and a quote: an attribute is read up to its value. -/
theorem readTag_opening {key : List Char} (hne : key ≠ []) (hkey : key.all isKeyChar = true)
    (as : List Attribute) {mode : TagMode} (hmode : mode = .between ∨ mode = .afterQuoted)
    (rest : List Char) : readTag as mode 0 (' ' :: key ++ '=' :: '"' :: rest) =
      readTag as (.quoted (key.map nameChar).reverse '"' []) 0 rest := by
  obtain ⟨c, key, rfl⟩ := List.exists_cons_of_ne_nil hne
  rw [List.all_cons, Bool.and_eq_true] at hkey
  have hc : isSpace c = false ∧ c ≠ '/' ∧ c ≠ '=' ∧ c ≠ '>' := by
    simpa [isKeyChar, and_assoc] using hkey.1
  have hfirst : tagStep as .between c (key ++ '=' :: '"' :: rest) =
      ⟨as, .name [nameChar c], 0⟩ := by
    simp [tagStep, beginAttribute, hc]
  have hblank : readTag as mode 0 (' ' :: c :: key ++ '=' :: '"' :: rest) =
      readTag as .between 0 (c :: (key ++ '=' :: '"' :: rest)) := by
    rcases hmode with rfl | rfl <;> rfl
  have hname : (key.map nameChar).reverse ++ [nameChar c] = ((c :: key).map nameChar).reverse := by
    rw [List.map_cons, List.reverse_cons]
  rw [hblank, readTag_cons hc.2.2.2, hfirst, readTag_key hkey.2, hname]
  rfl

/-- **An attribute is read as its key and its value,** and `hold` adds it unless one of its name is
    held. -/
theorem readTag_attribute {a : List Char × List Char} (hne : a.1 ≠ [])
    (hkey : a.1.all isKeyChar = true) (hvalue : '"' ∉ a.2) (as : List Attribute) {mode : TagMode}
    (hmode : mode = .between ∨ mode = .afterQuoted) (rest : List Char) :
    readTag as mode 0 (Xml.attributeText a ++ rest) =
      readTag (hold as (attributeOf a)) .afterQuoted 0 rest := by
  have htext : Xml.attributeText a ++ rest =
      ' ' :: a.1 ++ '=' :: '"' :: (a.2 ++ '"' :: rest) := by
    simp [Xml.attributeText]
  rw [htext, readTag_opening hne hkey as hmode, readTag_value as _ rfl hvalue, addAttribute,
    List.reverse_reverse, List.reverse_reverse]
  rfl

/-- Attributes `as` are read one after the other. The reader is left between attributes or behind a
    quote, whatever stands behind them. -/
theorem readTag_attributesText {as : List (List Char × List Char)}
    (hkeys : ∀ a ∈ as, a.1 ≠ [] ∧ a.1.all isKeyChar = true) (hvalues : ∀ a ∈ as, '"' ∉ a.2)
    (held : List Attribute) {mode : TagMode} (hmode : mode = .between ∨ mode = .afterQuoted)
    (rest : List Char) : ∃ mode', (mode' = .between ∨ mode' = .afterQuoted) ∧
      readTag held mode 0 (Xml.attributesText as ++ rest) =
        readTag ((as.map attributeOf).foldl hold held) mode' 0 rest := by
  induction as generalizing held mode with
  | nil => exact ⟨mode, hmode, rfl⟩
  | cons a as ih =>
    rw [List.forall_mem_cons] at hkeys hvalues
    have htext : Xml.attributesText (a :: as) ++ rest =
        Xml.attributeText a ++ (Xml.attributesText as ++ rest) := by
      simp [Xml.attributesText]
    rw [htext, readTag_attribute hkeys.1.1 hkeys.1.2 hvalues.1 held hmode]
    exact ih hkeys.2 hvalues.2 _ (.inr rfl)

/-- **The attributes of a tag are read as they are written,** up to the `>` that ends the tag. -/
theorem readAttributes_attributesText {as : List (List Char × List Char)}
    (hkeys : ∀ a ∈ as, a.1 ≠ [] ∧ a.1.all isKeyChar = true) (hvalues : ∀ a ∈ as, '"' ∉ a.2)
    (rest : List Char) : readAttributes (Xml.attributesText as ++ '>' :: rest) =
      some (heldAttributes as, false, rest) := by
  obtain ⟨mode, hmode, hread⟩ :=
    readTag_attributesText hkeys hvalues [] (.inl rfl : TagMode.between = _ ∨ _) ('>' :: rest)
  rw [readAttributes, hread]
  rcases hmode with rfl | rfl <;> rfl

/-- The `value` without its quote goes on to the end of the text, and so does its tag, which is
    therefore not read. -/
theorem readTag_unclosed (as : List Attribute) (name : List Char) {quote : Char}
    {value : List Char} (hvalue : quote ∉ value) (read : List Char) (skip : Nat) :
    readTag as (.quoted name quote read) skip value = none := by
  induction value generalizing read skip with
  | nil => rfl
  | cons c value ih =>
    rw [List.mem_cons, not_or] at hvalue
    cases skip with
    | succ skip => exact ih hvalue.2 read skip
    | zero =>
      rw [readTag]
      simp only [closeTag, ite_self, tagStep, quotedStep, if_neg (Ne.symm hvalue.1)]
      -- the value goes on, whatever the character stands for
      split
      · exact ih hvalue.2 _ _
      · split
        · exact ih hvalue.2 _ _
        · exact ih hvalue.2 _ _

/-- The attributes of a tag whose last `value` is not closed: none are read, not even those of
    `as`. -/
theorem readAttributes_unclosed {as : List (List Char × List Char)}
    (hkeys : ∀ a ∈ as, a.1 ≠ [] ∧ a.1.all isKeyChar = true) (hvalues : ∀ a ∈ as, '"' ∉ a.2)
    {key value : List Char} (hne : key ≠ []) (hkey : key.all isKeyChar = true)
    (hvalue : '"' ∉ value) :
    readAttributes (Xml.attributesText as ++ (' ' :: key ++ '=' :: '"' :: value)) = none := by
  obtain ⟨mode, hmode, hread⟩ := readTag_attributesText hkeys hvalues []
    (.inl rfl : TagMode.between = _ ∨ _) (' ' :: key ++ '=' :: '"' :: value)
  rw [readAttributes, hread, readTag_opening hne hkey _ hmode, readTag_unclosed _ _ hvalue]

/-! ### Named tags -/

/-- The characters that end the name of a tag, for `readNamedTag`. -/
def endsTagName (c : Char) : Bool :=
  isSpace c || c == '/' || c == '>'

/-- A tag is read from its `name`, which is in lower case, and its attributes from what stands
    behind that. -/
theorem readNamedTag_append {name : List Char}
    (hname : name.all (fun c => !endsTagName c && nameChar c == c) = true) {rest : List Char}
    (hrest : rest.head?.any endsTagName = true) :
    readNamedTag (name ++ rest) = (readAttributes rest).map fun (attributes, selfClosing, rest) =>
      ({ name := String.ofList name, attributes, selfClosing }, rest) := by
  simp only [List.all_eq_true, Bool.and_eq_true, beq_iff_eq] at hname
  obtain ⟨c, tail, rfl⟩ := List.exists_cons_of_ne_nil (l := rest) (by rintro rfl; cases hrest)
  have hc : (!endsTagName c) = false := by simpa using hrest
  have hall : ∀ c ∈ name, (!endsTagName c) = true := fun c hmem => (hname c hmem).1
  have hlower : name.map nameChar = name :=
    (List.map_congr_left fun c hmem => (hname c hmem).2).trans (List.map_id name)
  have htake : (name ++ c :: tail).takeWhile (!endsTagName ·) = name := by
    rw [List.takeWhile_append_of_pos hall, List.takeWhile_cons_of_neg (by simp [hc]),
      List.append_nil]
  have hdrop : (name ++ c :: tail).dropWhile (!endsTagName ·) = c :: tail := by
    rw [List.dropWhile_append_of_pos hall, List.dropWhile_cons_of_neg (by simp [hc])]
  unfold endsTagName at htake hdrop
  unfold readNamedTag
  simp only [htake, hdrop, hlower]

/-- The `rest` behind the attributes of a tag ends its name, and so do they. -/
theorem endsTagName_attributesText (as : List (List Char × List Char)) {rest : List Char}
    (hrest : rest.head?.any endsTagName = true) :
    (Xml.attributesText as ++ rest).head?.any endsTagName = true := by
  cases as with
  | nil => exact hrest
  | cons a as => rfl

/-- A letter behind `<` begins a start tag. A tag that does not end is no token. -/
theorem lexMarkup_letter {c : Char} (hc : c.isAlpha = true) (s : List Char) :
    lexMarkup false (c :: s) =
      (readNamedTag (c :: s)).elim ⟨[], .data, []⟩ fun (tag, rest) =>
        ⟨[.startTag tag], .data, rest⟩ := by
  have hne : ∀ {x : Char}, x.isAlpha = false → c ≠ x := by
    rintro x hx rfl
    rw [hc] at hx
    cases hx
  rw [lexMarkup]
  · rw [if_pos hc]
    cases readNamedTag (c :: s) <;> rfl
  · exact hne (by decide)
  · exact hne (by decide)
  · exact fun _ _ hslash => absurd hslash (hne (by decide))
  · exact fun hslash => absurd hslash (hne (by decide))

end PagePatch.Html
