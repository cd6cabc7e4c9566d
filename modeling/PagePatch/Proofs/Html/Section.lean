import PagePatch.Html.Section

namespace PagePatch.Html

/-!
# Where the sections of a page are

The head and the body are cut out of the same text, one without regard to the other: each from its
first start tag to its last end tag. So they may have text in common.

* `startOf`, `stopOf` — where the content of a section is in the text;
* `EndsAt` — an end tag stands at a place;
* `ClosedBetween` — a region is closed for good in a part of the text;
* `section?_inner` — the content of a section is the text between these places;
* `stopOf_le_iff` — a section ends by a place when it is closed for good by then;
* `apart_iff` — when two sections have no character in common;
* `parted_of_apart` — then they are parts of the text, one behind the other.
-/

/-! ### Parts of a text -/

/-- What is behind a text that stands in front of `s`, whatever the case of its letters, is what is
    left of `s`. -/
theorem suffix_of_dropPrefixNoCase? {pattern s rest : List Char}
    (h : Text.dropPrefixNoCase? pattern s = some rest) : rest <:+ s := by
  induction pattern generalizing s with
  | nil =>
    obtain rfl := Option.some.inj h
    exact List.suffix_refl _
  | cons p pattern ih =>
    cases s with
    | nil => cases h
    | cons c s =>
      rw [Text.dropPrefixNoCase?] at h
      split at h
      · exact (ih h).trans (List.suffix_cons c s)
      · cases h

/-- What is behind a start tag of `region` is what is left of the text. -/
theorem suffix_of_regionStart? {region : Region} {s behind : List Char}
    (h : regionStart? region s = some behind) : behind <:+ s := by
  obtain ⟨rest, hname, h⟩ := Option.bind_eq_some_iff.mp h
  refine List.IsSuffix.trans ?_ (suffix_of_dropPrefixNoCase? hname)
  split at h
  -- the tag ends right behind the name, or at the first `>` behind the blank that ends the name
  · obtain rfl := Option.some.inj h
    exact List.suffix_cons _ _
  · rename_i c rest _
    split at h
    · split at h
      · cases h
      · rename_i c' rest' hdrop
        obtain rfl := Option.some.inj h
        have hsuffix : c' :: rest' <:+ rest := hdrop ▸ List.dropWhile_suffix _
        exact ((List.suffix_cons c' rest').trans hsuffix).trans (List.suffix_cons c rest)
    · cases h
  · cases h

/-- What is behind the first start tag of `region` is what is left of the text. -/
theorem suffix_of_findRegionStart {region : Region} {s tag behind : List Char}
    (h : findRegionStart region s = some (tag, behind)) : behind <:+ s := by
  induction s with
  | nil => cases h
  | cons c s ih =>
    rw [findRegionStart] at h
    split at h
    · rename_i hstart
      obtain ⟨-, rfl⟩ := Prod.mk.inj (Option.some.inj h)
      exact suffix_of_regionStart? hstart
    · exact (ih h).trans (List.suffix_cons c s)

/-- An end tag of `region` stands at the place `n` of the text `s`. -/
def EndsAt (region : Region) (s : List Char) (n : Nat) : Prop :=
  isRegionEnd region (s.drop n) = true

/-- No end tag stands behind the text `s`. -/
theorem not_endsAt_of_le {region : Region} {s : List Char} {n : Nat} (h : s.length ≤ n) :
    ¬ EndsAt region s n := by
  rw [EndsAt, List.drop_of_length_le h]
  cases region <;> decide

/-- Where `beforeRegionEnd?` finds no last end tag, no end tag stands anywhere. -/
theorem not_endsAt_of_none {region : Region} {s : List Char}
    (h : beforeRegionEnd? region s = none) (n : Nat) : ¬ EndsAt region s n := by
  induction s generalizing n with
  | nil => exact not_endsAt_of_le (Nat.zero_le n)
  | cons c s ih =>
    rw [beforeRegionEnd?] at h
    split at h
    · cases h
    · rename_i hrest
      split at h
      · cases h
      · rename_i hfront
        cases n with
        | zero => exact hfront
        | succ n => exact ih hrest n

/-- Behind the text `inner` in front of the last end tag an end tag stands, and none stands further
    behind. -/
theorem endsAt_of_some {region : Region} {s inner : List Char}
    (h : beforeRegionEnd? region s = some inner) :
    inner <+: s ∧ EndsAt region s inner.length ∧ ∀ n, inner.length < n → ¬ EndsAt region s n := by
  induction s generalizing inner with
  | nil => cases h
  | cons c s ih =>
    rw [beforeRegionEnd?] at h
    split at h
    · rename_i inner' hrest
      obtain rfl := Option.some.inj h
      obtain ⟨hinner, hends, hlast⟩ := ih hrest
      refine ⟨(List.prefix_cons_inj c).mpr hinner, hends, fun n hn => ?_⟩
      cases n with
      | zero => cases hn
      | succ n => exact hlast n (Nat.lt_of_succ_lt_succ hn)
    · rename_i hrest
      split at h
      -- no end tag stands further behind, so the one in front is the last one
      · rename_i hfront
        obtain rfl := Option.some.inj h
        refine ⟨List.nil_prefix, hfront, fun n hn => ?_⟩
        cases n with
        | zero => cases hn
        | succ n => exact not_endsAt_of_none hrest n
      · cases h

/-! ### The places of a section -/

/-- The content of a section whose start tag `behind` stands behind: what is in front of the last
    end tag, or all of it. -/
def contentOf (region : Region) (behind : List Char) : List Char :=
  (beforeRegionEnd? region behind).getD behind

/-- Where the content of the section of `region` begins in the text `s`: behind its first start
    tag. -/
def startOf (region : Region) (s : List Char) : Nat :=
  s.length - ((findRegionStart region s).elim 0 fun found => found.2.length)

/-- Where the content of the section of `region` ends: in front of its last end tag, or at the end
    of the text. -/
def stopOf (region : Region) (s : List Char) : Nat :=
  startOf region s + (contentOf region (s.drop (startOf region s))).length

/-- The part of the text `s` that is the content of the section of `region`. -/
def partOf (region : Region) (s : List Char) : List Char :=
  (s.take (stopOf region s)).drop (startOf region s)

/-- The character at the place `n` of the text `s` is in the section of `region`. -/
def Inside (region : Region) (s : List Char) (n : Nat) : Prop :=
  startOf region s ≤ n ∧ n < stopOf region s

/-- A region whose content begins at `start` is closed for good by the place `stop`: an end tag
    stands between the two, and none behind. -/
def ClosedBetween (region : Region) (s : List Char) (start stop : Nat) : Prop :=
  (∃ n, start ≤ n ∧ n ≤ stop ∧ EndsAt region s n) ∧ ∀ n, stop < n → ¬ EndsAt region s n

variable {region : Region} {s : List Char}

/-- The content of a section is in front of `behind`, what is behind its start tag. -/
theorem prefix_contentOf (region : Region) (behind : List Char) :
    contentOf region behind <+: behind := by
  unfold contentOf
  cases h : beforeRegionEnd? region behind with
  | none => exact List.prefix_refl _
  | some inner => exact (endsAt_of_some h).1

/-- A section does not end before it begins: `startOf` and `stopOf` are its places in `s`. -/
theorem startOf_le_stopOf (region : Region) (s : List Char) : startOf region s ≤ stopOf region s :=
  Nat.le_add_right _ _

/-- A section ends in the text `s`. -/
theorem stopOf_le_length (region : Region) (s : List Char) : stopOf region s ≤ s.length := by
  have hcontent := (prefix_contentOf region (s.drop (startOf region s))).length_le
  have hstart : startOf region s ≤ s.length := Nat.sub_le _ _
  rw [List.length_drop] at hcontent
  unfold stopOf
  omega

/-- What stands `behind` the start tag begins where the content of the section begins. -/
theorem drop_startOf {tag behind : List Char}
    (h : findRegionStart region s = some (tag, behind)) : s.drop (startOf region s) = behind := by
  obtain ⟨before, rfl⟩ := suffix_of_findRegionStart h
  rw [startOf, h]
  simp

/-- **The content of a section** is the text between its places, `partOf`. -/
theorem section?_inner {markup : String} {content : Section}
    (h : section? region markup = some content) :
    content.inner.toList = partOf region markup.toList := by
  obtain ⟨⟨tag, behind⟩, hfound, rfl⟩ := Option.map_eq_some_iff.mp h
  have hdrop := drop_startOf hfound
  rw [String.toList_ofList, partOf, List.drop_take, stopOf, hdrop, Nat.add_sub_cancel_left]
  exact List.prefix_iff_eq_take.mp (prefix_contentOf region behind)

/-- The end tags of a text from the place `start` on are those of the whole text from this place
    on. -/
theorem endsAt_drop (region : Region) (s : List Char) (start n : Nat) :
    EndsAt region (s.drop start) n ↔ EndsAt region s (start + n) := by
  rw [EndsAt, EndsAt, List.drop_drop]

/-- **When a section ends.** A section ends by the place `n` of the text exactly if its region is
    closed for good between the beginning of its content and this place. -/
theorem stopOf_le_iff {n : Nat} (hn : n < s.length) :
    stopOf region s ≤ n ↔ ClosedBetween region s (startOf region s) n := by
  have hstop : stopOf region s =
      startOf region s + (contentOf region (s.drop (startOf region s))).length := rfl
  have hends := endsAt_drop region s (startOf region s)
  have hstart : startOf region s ≤ s.length := Nat.sub_le _ _
  have hlength : (s.drop (startOf region s)).length = s.length - startOf region s :=
    List.length_drop
  generalize startOf region s = start at *
  unfold contentOf at hstop
  cases h : beforeRegionEnd? region (s.drop start) with
  | none =>
    -- without an end tag the section goes to the end of the text
    rw [h, Option.getD_none, hlength] at hstop
    refine ⟨fun hle => absurd hle (by omega), fun ⟨⟨m, hfrom, _, hm⟩, _⟩ => ?_⟩
    obtain ⟨k, rfl⟩ := Nat.exists_eq_add_of_le hfrom
    exact absurd ((hends k).mpr hm) (not_endsAt_of_none h k)
  | some inner =>
    -- with one, the section ends where the last end tag stands
    obtain ⟨-, htag, hlast⟩ := endsAt_of_some h
    rw [h, Option.getD_some] at hstop
    rw [hends, ← hstop] at htag
    constructor
    · refine fun hle => ⟨⟨stopOf region s, by omega, hle, htag⟩, fun m hm hm' => ?_⟩
      obtain ⟨k, rfl⟩ := Nat.exists_eq_add_of_le (show start ≤ m by omega)
      exact hlast k (by omega) ((hends k).mpr hm')
    · exact fun ⟨_, hnone⟩ => Nat.not_lt.mp fun hlt => hnone _ hlt htag

/-- A section whose region is closed for good by the place `n` ends by this place. -/
theorem stopOf_le_of_closed {n : Nat} (h : ClosedBetween region s (startOf region s) n) :
    stopOf region s ≤ n := by
  rcases Nat.lt_or_ge n s.length with hn | hn
  · exact (stopOf_le_iff hn).mpr h
  · exact Nat.le_trans (stopOf_le_length region s) hn

/-! ### Two sections -/

/-- Two regions of the text `s` are closed one before the other begins, or one of them is empty. -/
def Apart (first second : Region) (s : List Char) : Prop :=
  startOf first s = stopOf first s ∨ startOf second s = stopOf second s ∨
    ClosedBetween first s (startOf first s) (startOf second s) ∨
    ClosedBetween second s (startOf second s) (startOf first s)

/-- **What two sections share.** Two sections have no character of the text in common exactly if
    they are `Apart`. -/
theorem apart_iff (first second : Region) (s : List Char) :
    (∀ n, ¬ (Inside first s n ∧ Inside second s n)) ↔ Apart first second s := by
  have hfirst := stopOf_le_length first s
  have hsecond := stopOf_le_length second s
  unfold Inside
  constructor
  · intro hnone
    by_cases hempty : startOf first s = stopOf first s
    · exact .inl hempty
    by_cases hempty' : startOf second s = stopOf second s
    · exact .inr (.inl hempty')
    have hlt := Nat.lt_of_le_of_ne (startOf_le_stopOf first s) hempty
    have hlt' := Nat.lt_of_le_of_ne (startOf_le_stopOf second s) hempty'
    by_cases hbefore : stopOf first s ≤ startOf second s
    · exact .inr (.inr (.inl ((stopOf_le_iff (by omega)).mp hbefore)))
    · -- the later of the two beginnings is not in the section that begins earlier
      have hbehind : stopOf second s ≤ startOf first s := by
        have hmax := hnone (max (startOf first s) (startOf second s))
        omega
      exact .inr (.inr (.inr ((stopOf_le_iff (by omega)).mp hbehind)))
  · rintro hapart n ⟨⟨hn₁, hn₂⟩, hn₃, hn₄⟩
    rcases hapart with hempty | hempty | hclosed | hclosed
    · omega
    · omega
    · have hle := stopOf_le_of_closed hclosed
      omega
    · have hle := stopOf_le_of_closed hclosed
      omega

/-- A part of the text `s` is behind what comes before it. -/
theorem take_append_part {α : Type} (s : List α) {a b : Nat} (h : a ≤ b) :
    s.take a ++ (s.take b).drop a = s.take b := by
  have htake : s.take a = (s.take b).take a := by rw [List.take_take, Nat.min_eq_left h]
  rw [htake, List.take_append_drop]

/-- A text `s` that is cut at four places is its parts one behind the other. -/
theorem split_parts {α : Type} (s : List α) {a b c d : Nat} (hab : a ≤ b) (hbc : b ≤ c)
    (hcd : c ≤ d) :
    s = s.take a ++ (s.take b).drop a ++ (s.take c).drop b ++ (s.take d).drop c ++ s.drop d := by
  rw [take_append_part s hab, take_append_part s hbc, take_append_part s hcd,
    List.take_append_drop]

/-- The text `s` is made of two parts of it, one behind the other, and of what is around them. -/
def Parted (s first second : List Char) : Prop :=
  ∃ before between behind, s = before ++ first ++ between ++ second ++ behind

/-- A section that ends where it begins has no content, so `partOf` is empty. -/
theorem partOf_of_empty (h : startOf region s = stopOf region s) : partOf region s = [] := by
  rw [partOf, h]
  exact List.drop_of_length_le (List.length_take_le _ _)

/-- Nothing is in front of any section of `s`. -/
theorem parted_nil (region : Region) (s : List Char) : Parted s [] (partOf region s) := by
  refine ⟨[], s.take (startOf region s), s.drop (stopOf region s), ?_⟩
  rw [List.nil_append, List.nil_append, partOf, take_append_part s (startOf_le_stopOf region s),
    List.take_append_drop]

/-- **One behind the other.** Two sections that are `Apart` are parts of the text, and one of them
    is behind the other. -/
theorem parted_of_apart {first second : Region} (h : Apart first second s) :
    Parted s (partOf first s) (partOf second s) ∨ Parted s (partOf second s) (partOf first s) := by
  have hle := startOf_le_stopOf first s
  have hle' := startOf_le_stopOf second s
  rcases h with heq | heq | hclosed | hclosed
  · exact .inl (partOf_of_empty heq ▸ parted_nil second s)
  · exact .inr (partOf_of_empty heq ▸ parted_nil first s)
  · exact .inl ⟨_, _, _, split_parts s hle (stopOf_le_of_closed hclosed) hle'⟩
  · exact .inr ⟨_, _, _, split_parts s hle' (stopOf_le_of_closed hclosed) hle⟩

end PagePatch.Html
