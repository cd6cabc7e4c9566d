import Mathlib.Data.List.Basic
import Mathlib.Data.List.Nodup
import Mathlib.Data.List.Perm.Basic
import PagePatch.Proofs.Text.Splitting
import PagePatch.Request.Basic

namespace PagePatch.Request

/-!
# What identifier lists stand for

* `Firsts` — the ids of a list without repetitions, each where it stands first; there is only one
  such list (`Firsts.eq`);
* `idsFor` — the ids that one word stands for;
* `Resolves` — what a list of words stands for;
* `Travels` — ids that are found again in the field in which they are sent, and that stand for
  themselves when they are put into a list;
* `resolves_resolveIds` — the ids that a list is resolved to.
-/

/-! ### First occurrences -/

/-- The list `firsts` has the `ids` without repetitions, each where it stands first. -/
structure Firsts (ids firsts : List String) : Prop where
  /-- They are the same ids. -/
  mem_iff : ∀ id, id ∈ firsts ↔ id ∈ ids
  /-- None is repeated. -/
  nodup : firsts.Nodup
  /-- They are in the order in which they stand first. -/
  ordered : firsts.Pairwise fun a b => ids.idxOf a < ids.idxOf b

/-- There is only one such list, so `firsts` and `others` are the same, as the places where ids
    stand first put them in order. -/
theorem Firsts.eq {ids firsts others : List String} (h : Firsts ids firsts)
    (h' : Firsts ids others) : firsts = others := by
  -- two lists of the same ids, in one order
  have hperm : firsts.Perm others := (List.perm_ext_iff_of_nodup h.nodup h'.nodup).mpr fun id =>
    (h.mem_iff id).trans (h'.mem_iff id).symm
  exact hperm.eq_of_pairwise (fun a b _ _ hab hba => absurd hba (Nat.lt_asymm hab)) h.ordered
    h'.ordered

/-- For `ids` without repetitions, it is the list `ids` itself. -/
theorem Firsts.self {ids : List String} (h : ids.Nodup) : Firsts ids ids where
  mem_iff _ := Iff.rfl
  nodup := h
  ordered := List.pairwise_iff_getElem.mpr fun i j hi hj hij => by
    rwa [h.idxOf_getElem i hi, h.idxOf_getElem j hj]

theorem mem_distinctFrom_iff {seen ids : List String} {id : String} :
    id ∈ distinctFrom seen ids ↔ id ∈ ids ∧ id ∉ seen := by
  induction ids generalizing seen with
  | nil => simp [distinctFrom]
  | cons first ids ih =>
    rw [distinctFrom]
    split
    · rename_i hseen
      rw [ih, List.mem_cons]
      constructor
      · exact fun h => ⟨.inr h.1, h.2⟩
      · rintro ⟨rfl | h, hnot⟩
        · exact absurd hseen hnot
        · exact ⟨h, hnot⟩
    · rename_i hseen
      rw [List.mem_cons, ih, List.mem_cons, List.mem_cons, not_or]
      by_cases heq : id = first
      · simp [heq, hseen]
      · simp [heq]

/-- The ids that are kept are in the order in which they stand first, whatever ids were `seen`
    before. -/
theorem pairwise_distinctFrom (seen ids : List String) :
    (distinctFrom seen ids).Pairwise fun a b => ids.idxOf a < ids.idxOf b := by
  induction ids generalizing seen with
  | nil => exact List.Pairwise.nil
  | cons first ids ih =>
    -- behind the first id, all places are one further on
    have hshift : ∀ {seen : List String}, first ∈ seen →
        (distinctFrom seen ids).Pairwise fun a b =>
          (first :: ids).idxOf a < (first :: ids).idxOf b := by
      intro seen hseen
      refine (ih seen).imp_of_mem fun {a b} ha hb hab => ?_
      have hne : ∀ {id}, id ∈ distinctFrom seen ids → first ≠ id := by
        rintro id hid rfl
        exact (mem_distinctFrom_iff.mp hid).2 hseen
      rw [List.idxOf_cons_ne _ (hne ha), List.idxOf_cons_ne _ (hne hb)]
      exact Nat.succ_lt_succ hab
    rw [distinctFrom]
    split
    · rename_i hseen
      exact hshift hseen
    · refine List.pairwise_cons.mpr ⟨fun b hb => ?_, hshift List.mem_cons_self⟩
      have hne : first ≠ b := by
        rintro rfl
        exact (mem_distinctFrom_iff.mp hb).2 List.mem_cons_self
      rw [List.idxOf_cons_self, List.idxOf_cons_ne _ hne]
      exact Nat.succ_pos _

/-- **Only first occurrences** are kept of the `ids`, when none was seen before. -/
theorem firsts_distinctFrom (ids : List String) : Firsts ids (distinctFrom [] ids) where
  mem_iff id := by simp [mem_distinctFrom_iff]
  nodup := (pairwise_distinctFrom [] ids).imp fun h heq => by
    rw [heq] at h
    exact absurd h (Nat.lt_irrefl _)
  ordered := pairwise_distinctFrom [] ids

/-! ### Words and the ids they stand for -/

/-- The words that do not stand for themselves; `idsFor` says what they stand for. -/
def keywords : List String :=
  ["@none", "@all", "@this", "@form"]

/-- The ids that one `word` stands for: the source, the enclosing form if there is one, or the word
    itself. -/
def idsFor (source : String) (form : Option String) (word : String) : List String :=
  match word with
  | "@this" => [source]
  | "@form" => form.toList
  | id => [id]

theorem toList_expandId (source : String) (form : Option String) (word : String) :
    (expandId source form word).toList = idsFor source form word := by
  unfold expandId idsFor
  split_ifs with hthis hform
  · rw [hthis]
    rfl
  · rw [hform]
    rfl
  · split
    · exact absurd rfl hthis
    · exact absurd rfl hform
    · rfl

theorem filterMap_expandId (source : String) (form : Option String) (words : List String) :
    words.filterMap (expandId source form) = words.flatMap (idsFor source form) := by
  rw [List.filterMap_eq_flatMap_toList]
  exact congrArg words.flatMap (funext (toList_expandId source form))

/-- A `word` that is no keyword stands for itself. -/
theorem idsFor_of_not_mem {word : String} (h : word ∉ keywords) (source : String)
    (form : Option String) : idsFor source form word = [word] := by
  unfold idsFor
  split
  · exact absurd (by decide) h
  · exact absurd (by decide) h
  · rfl

/-- What a list of words, written as one text `raw`, stands for. -/
structure Resolves (raw source : String) (form : Option String) (ids : List String) : Prop where
  /-- Nothing, if it is said to be nothing. -/
  none : "@none" ∈ Text.words raw → ids = []
  /-- Else everything, if that is said. -/
  all : "@none" ∉ Text.words raw → "@all" ∈ Text.words raw → ids = ["@all"]
  /-- Else the ids that the words stand for, without repetitions. -/
  others : "@none" ∉ Text.words raw → "@all" ∉ Text.words raw →
    Firsts ((Text.words raw).flatMap (idsFor source form)) ids

theorem resolves (raw source : String) (form : Option String) :
    Resolves raw source form (resolveIds raw source form) where
  none h := if_pos h
  all h h' := by
    unfold resolveIds
    rw [if_neg h, if_pos h']
  others h h' := by
    unfold resolveIds
    rw [if_neg h, if_neg h', filterMap_expandId]
    exact firsts_distinctFrom _

namespace Resolves

variable {raw source : String} {form : Option String} {ids : List String}

/-- The list `raw` stands for nothing, for everything, or for the ids of its words. -/
theorem cases (h : Resolves raw source form ids) : ids = [] ∨
    ("@all" ∈ Text.words raw ∧ ids = ["@all"]) ∨
      Firsts ((Text.words raw).flatMap (idsFor source form)) ids := by
  by_cases hnone : "@none" ∈ Text.words raw
  · exact .inl (h.none hnone)
  · by_cases hall : "@all" ∈ Text.words raw
    · exact .inr (.inl ⟨hall, h.all hnone hall⟩)
    · exact .inr (.inr (h.others hnone hall))

theorem nodup (h : Resolves raw source form ids) : ids.Nodup := by
  obtain rfl | ⟨-, rfl⟩ | hfirsts := h.cases
  · exact List.nodup_nil
  · exact List.nodup_singleton _
  · exact hfirsts.nodup

/-- All `ids` that a list stands for are words, if the source and the form are. -/
theorem isWord (h : Resolves raw source form ids) (hsource : Text.IsWord source)
    (hform : ∀ id ∈ form, Text.IsWord id) {id : String} (hid : id ∈ ids) : Text.IsWord id := by
  obtain rfl | ⟨hall, rfl⟩ | hfirsts := h.cases
  · cases hid
  · rw [List.mem_singleton.mp hid]
    exact Text.isWord_of_mem_words hall
  · -- an id is the source, the form, or a word of the list
    obtain ⟨word, hword, hmem⟩ := List.mem_flatMap.mp ((hfirsts.mem_iff id).mp hid)
    unfold idsFor at hmem
    split at hmem
    · rwa [List.mem_singleton.mp hmem]
    · exact hform id (Option.mem_toList.mp hmem)
    · rw [List.mem_singleton.mp hmem]
      exact Text.isWord_of_mem_words hword

end Resolves

/-! ### Ids as one text -/

/-- The `ids` come through when they are sent as one text. -/
structure Travels (ids : List String) : Prop where
  /-- They are sent in one field, where they are the pieces between the spaces. -/
  split : ids ≠ [] → ∀ name, ∃ text, idField name ids = [(name, text)] ∧
    (text.toList.splitOn ' ').map String.ofList = ids
  /-- Without any, there is no field. -/
  omitted : ids = [] → ∀ name, idField name ids = []
  /-- If none of them is a keyword, they stand for themselves. -/
  again : (∀ id ∈ ids, id ∉ keywords) → ∀ source form,
    resolveIds (" ".intercalate ids) source form = ids

/-- The words `ids` without repetitions come through. -/
theorem travels {ids : List String} (hwords : ∀ id ∈ ids, Text.IsWord id) (hnodup : ids.Nodup) :
    Travels ids where
  split hne name := by
    have hfilled : ¬ ids.isEmpty = true := fun h => hne (List.isEmpty_iff.mp h)
    exact ⟨" ".intercalate ids, if_neg hfilled, Text.splitOn_intercalate_words hwords hne⟩
  omitted hnil name := if_pos (List.isEmpty_iff.mpr hnil)
  again hplain source form := by
    -- the words of the text are the ids, each stands for itself, and none is repeated
    have hread : Text.words (" ".intercalate ids) = ids := Text.words_intercalate hwords
    have h := resolves (" ".intercalate ids) source form
    have hkeyword : ∀ word ∈ keywords, word ∉ ids := fun word hword hmem => hplain word hmem hword
    have hself : ids.flatMap (idsFor source form) = ids := by
      rw [List.flatMap_congr fun id hid => idsFor_of_not_mem (hplain id hid) source form]
      exact List.flatMap_singleton' ids
    have hfirsts := h.others (by rw [hread]; exact hkeyword _ (by decide))
      (by rw [hread]; exact hkeyword _ (by decide))
    rw [hread, hself] at hfirsts
    exact hfirsts.eq (.self hnodup)

/-- **The ids that a list is resolved to**, and how they come through when they are sent. For the
    latter the `source` and the `form` have to be words, as the ids of the list are. -/
theorem resolves_resolveIds (raw source : String) (form : Option String) :
    Resolves raw source form (resolveIds raw source form) ∧
      (Text.IsWord source → (∀ id ∈ form, Text.IsWord id) →
        Travels (resolveIds raw source form)) := by
  have h := resolves raw source form
  exact ⟨h, fun hsource hform => travels (fun _ => h.isWord hsource hform) h.nodup⟩

/-- The source `save` is named twice in this list, and stands where it is named first. -/
theorem resolves_saving : Text.IsWord "save" ∧ (∀ id ∈ some "form", Text.IsWord id) ∧
    resolveIds "panel @this save\u00a0@form panel" "save" (some "form") =
        ["panel", "save", "form"] ∧
      Travels ["panel", "save", "form"] ∧
        resolveIds "panel save form" "other" none = ["panel", "save", "form"] := by
  have hsource : Text.IsWord "save" := by decide
  have hform : ∀ id ∈ some "form", Text.IsWord id := by
    rintro id ⟨⟩
    decide
  have htravels :=
    (resolves_resolveIds "panel @this save\u00a0@form panel" "save" (some "form")).2 hsource hform
  have hids : resolveIds "panel @this save\u00a0@form panel" "save" (some "form") =
      ["panel", "save", "form"] := by
    decide +kernel
  rw [hids] at htravels
  exact ⟨hsource, hform, hids, htravels, htravels.again (by decide) "other" none⟩

end PagePatch.Request
