import Mathlib.Data.List.Basic
import PagePatch.Text.Blank
import PagePatch.Text.Search

namespace PagePatch.Text

/-!
# Texts in pieces

* `not_mem_of_mem_splitOn` — no piece of a text holds the separator that it is split at;
* `splitFirst_append_cons` — the two parts around the first separator;
* `IsWord` — a text that is not empty and has no blanks;
* `words_eq` — the words of a text are its pieces between blanks, the empty ones left out;
* `words_append_blank` — so they are found on the two sides of a blank;
* `isWord_of_mem_words`, `words_intercalate` — what is found are words, and words that are joined by
  spaces are found again;
* `splitOn_intercalate_words` — the pieces between the spaces are these words as well.
-/

/-! ### Pieces -/

/-- No `piece` of a text holds a character that the text is split at. -/
theorem not_of_mem_splitOnP {α : Type} {p : α → Bool} {s piece : List α}
    (h : piece ∈ s.splitOnP p) {x : α} (hx : x ∈ piece) : p x = false := by
  induction s generalizing piece with
  | nil =>
    rw [List.splitOnP_nil, List.mem_singleton] at h
    rw [h] at hx
    cases hx
  | cons y s ih =>
    rw [List.splitOnP_cons_eq_if_modifyHead] at h
    split at h
    · rcases List.mem_cons.mp h with rfl | h
      · cases hx
      · exact ih h hx
    · rename_i hy
      -- the character is put in front of the first piece of the others
      obtain ⟨first, others, heq⟩ := List.exists_cons_of_ne_nil (List.splitOnP_ne_nil p s)
      rw [heq] at h ih
      rcases List.mem_cons.mp h with rfl | h
      · rcases List.mem_cons.mp hx with rfl | hx
        · exact Bool.not_eq_true _ ▸ hy
        · exact ih List.mem_cons_self hx
      · exact ih (List.mem_cons_of_mem _ h) hx

/-- No `piece` of a text holds the separator `sep` that the text is split at. -/
theorem not_mem_of_mem_splitOn {sep : Char} {s piece : List Char} (h : piece ∈ s.splitOn sep) :
    sep ∉ piece := by
  intro hmem
  rw [List.splitOn_eq_splitOnP] at h
  have hno := not_of_mem_splitOnP h hmem
  rw [beq_self_eq_true] at hno
  cases hno

/-- The first separator is the one behind a text `front` without any. -/
theorem splitFirst_append_cons {sep : Char} {front : List Char} (h : sep ∉ front)
    (back : List Char) : splitFirst sep (front ++ sep :: back) = (front, some back) := by
  have hfront : ∀ c ∈ front, (c != sep) = true := fun c hc =>
    bne_iff_ne.mpr (ne_of_mem_of_not_mem hc h)
  have hdrop : (sep :: back).dropWhile (· != sep) = sep :: back :=
    List.dropWhile_cons_of_neg (by simp)
  have htake : (sep :: back).takeWhile (· != sep) = [] := List.takeWhile_cons_of_neg (by simp)
  rw [splitFirst, List.dropWhile_append_of_pos hfront, List.takeWhile_append_of_pos hfront, hdrop,
    htake, List.append_nil]

/-! ### Words -/

/-- A text `s` that is not empty and has no blanks. -/
structure IsWord (s : String) : Prop where
  /-- It is not empty. -/
  nonempty : s ≠ ""
  /-- It has no blanks. -/
  unbroken : ∀ c ∈ s.toList, isBlank c = false

theorem splitWords_eq (word s : List Char) :
    splitWords word s = (List.splitOnPPrepend isBlank s word).filter (!·.isEmpty) := by
  induction s generalizing word with
  | nil =>
    rw [splitWords, List.splitOnPPrepend_nil]
    cases word <;> simp
  | cons c s ih =>
    rw [splitWords]
    split
    · rename_i hc
      rw [List.splitOnPPrepend_cons_pos hc, List.splitOnP_eq_splitOnPPrepend, ih]
      cases word <;> simp
    · rename_i hc
      rw [List.splitOnPPrepend_cons_neg (Bool.not_eq_true _ ▸ hc), ih]

/-- **The words of a text** `s` are its pieces between blanks, but for the empty ones. -/
theorem words_eq (s : String) :
    words s = ((s.toList.splitOnP isBlank).filter (!·.isEmpty)).map String.ofList := by
  rw [words, splitWords_eq, List.splitOnP_eq_splitOnPPrepend]

/-- The words of a text are those in `front` of a blank and those behind it. -/
theorem words_append_blank {c : Char} (hc : isBlank c = true) {s front back : String}
    (hs : s.toList = front.toList ++ c :: back.toList) : words s = words front ++ words back := by
  rw [words_eq, hs, List.splitOnP_append_cons _ _ hc, List.filter_append, List.map_append,
    ← words_eq, ← words_eq]

/-- A word `s` is the only one among its own words. -/
theorem words_eq_singleton {s : String} (h : IsWord s) : words s = [s] := by
  have hne : s.toList ≠ [] := fun hnil => h.nonempty (String.toList_eq_nil_iff.mp hnil)
  rw [words_eq, List.splitOnP_eq_singleton h.unbroken]
  simp [hne]

/-- What is found in the text `s` are words. -/
theorem isWord_of_mem_words {s word : String} (h : word ∈ words s) : IsWord word := by
  rw [words_eq] at h
  obtain ⟨piece, hpiece, rfl⟩ := List.mem_map.mp h
  obtain ⟨hmem, hne⟩ := List.mem_filter.mp hpiece
  refine ⟨fun hempty => ?_, fun c hc => ?_⟩
  -- an empty piece would have been left out, and a blank would have split it
  · have hnil := congrArg String.toList hempty
    rw [String.toList_ofList] at hnil
    rw [hnil] at hne
    cases hne
  · rw [String.toList_ofList] at hc
    exact not_of_mem_splitOnP hmem hc

/-- A text `s` is a word exactly if it is the only one among its own words. -/
theorem words_eq_singleton_iff {s : String} : words s = [s] ↔ IsWord s := by
  refine ⟨fun h => isWord_of_mem_words (s := s) ?_, words_eq_singleton⟩
  rw [h]
  exact List.mem_singleton_self s

instance (s : String) : Decidable (IsWord s) :=
  decidable_of_iff (words s = [s]) words_eq_singleton_iff

/-- **Words that are joined by spaces** are found again, in the order of `ws`. -/
theorem words_intercalate {ws : List String} (h : ∀ w ∈ ws, IsWord w) :
    words (" ".intercalate ws) = ws := by
  induction ws with
  | nil => rfl
  | cons w ws ih =>
    rw [List.forall_mem_cons] at h
    have hw := words_eq_singleton h.1
    cases ws with
    | nil =>
      rw [String.intercalate_singleton]
      exact hw
    | cons v ws =>
      -- the first space stands behind the first word
      have hjoined : (" ".intercalate (w :: v :: ws)).toList =
          w.toList ++ ' ' :: (" ".intercalate (v :: ws)).toList := by
        rw [String.intercalate_cons_cons, String.toList_append, String.toList_append,
          List.append_assoc]
        rfl
      rw [words_append_blank (by decide) hjoined, hw, ih h.2, List.singleton_append]

/-- **The pieces between the spaces** are the words `ws` that were joined, if there are any. -/
theorem splitOn_intercalate_words {ws : List String} (h : ∀ w ∈ ws, IsWord w) (hne : ws ≠ []) :
    ((" ".intercalate ws).toList.splitOn ' ').map String.ofList = ws := by
  have hspaces : ∀ piece ∈ ws.map String.toList, ' ' ∉ piece := by
    intro piece hpiece hspace
    obtain ⟨w, hw, rfl⟩ := List.mem_map.mp hpiece
    cases (h w hw).unbroken ' ' hspace
  have hjoined : (" ".intercalate ws).toList = [' '].intercalate (ws.map String.toList) :=
    String.toList_intercalate
  rw [hjoined, List.splitOn_intercalate ' ' hspaces (by simpa using hne), List.map_map]
  exact List.map_id'' (fun w => String.ofList_toList) ws

end PagePatch.Text
