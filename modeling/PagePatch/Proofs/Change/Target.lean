import Mathlib.Data.List.Basic
import PagePatch.Engine.Config
import PagePatch.Proofs.Text.Splitting

namespace PagePatch

/-!
# What ids stand for

The reserved ids of an application stand each for its own region, and the view-state id stands for
the token also where further segments are put around it. An id with a colon in it is cut up before
it is compared, so as a view-state id it is never found.

* `Qualifies` — an id is another one with further segments in front of it and behind it;
* `mem_idSegments_iff` — the ids that have a given one among their segments;
* `ReservedIds.Distinguishes`, `ReservedIds.distinguishes` — what the reserved ids, those around the
  view-state id, and all others stand for;
* `viewState_unfound` — a usable configuration whose view-state id stands for an element.
-/

/-! ### Segments -/

/-- The id `id` qualifies the id `base` if it consists of `base` and any number of segments in front
    of it and behind it. -/
def Qualifies (id base : String) : Prop :=
  ∃ before after : List String, id = ":".intercalate (before ++ base :: after)

/-- Every `id` qualifies itself, with no segments around it. -/
theorem Qualifies.refl (id : String) : Qualifies id id :=
  ⟨[], [], (String.intercalate_singleton).symm⟩

theorem idSegments_eq (id : List Char) : idSegments id = id.splitOn ':' := by
  induction id with
  | nil => rfl
  | cons c id ih =>
    rw [List.splitOn_cons_eq_if_modifyHead, idSegments]
    by_cases hc : c = ':'
    · rw [if_pos hc, if_pos (by simp [hc]), ih]
    · obtain ⟨first, others, heq⟩ := List.exists_cons_of_ne_nil (List.splitOn_ne_nil ':' id)
      rw [if_neg hc, if_neg (by simp [hc]), ih, heq]
      rfl

/-- An id `base` without a colon is found among the segments of every id that qualifies it. -/
theorem mem_splitOn_intercalate {base : String} (hcolon : ':' ∉ base.toList)
    (before after : List String) :
    base.toList ∈ (":".intercalate (before ++ base :: after)).toList.splitOn ':' := by
  -- the first colon behind the id ends it, and the last one in front of it begins it
  have hback : base.toList ∈ (":".intercalate (base :: after)).toList.splitOn ':' := by
    cases after with
    | nil =>
      rw [String.intercalate_singleton, List.splitOn_eq_singleton hcolon]
      exact List.mem_singleton_self _
    | cons next after =>
      have hcut : (":".intercalate (base :: next :: after)).toList =
          base.toList ++ ':' :: (":".intercalate (next :: after)).toList := by
        simp
      rw [hcut, List.splitOn_append_cons_self_of_not_mem hcolon]
      exact List.mem_cons_self
  cases before with
  | nil => exact hback
  | cons first before =>
    have hcut : (":".intercalate (first :: before ++ base :: after)).toList =
        (":".intercalate (first :: before)).toList ++
          ':' :: (":".intercalate (base :: after)).toList := by
      rw [String.intercalate_append_of_ne_nil (by simp) (by simp)]
      simp
    rw [hcut, List.splitOn_append_cons_self]
    exact List.mem_append_right _ hback

/-- **The ids that have a given one among their segments** are those that qualify it, if there is no
    colon in `base`, and else none at all. -/
theorem mem_idSegments_iff {id base : String} : base.toList ∈ idSegments id.toList ↔
    ':' ∉ base.toList ∧ Qualifies id base := by
  rw [idSegments_eq]
  constructor
  · intro h
    -- the other segments, joined again, are what stands around this one
    obtain ⟨before, after, hsplit⟩ := List.append_of_mem h
    refine ⟨Text.not_mem_of_mem_splitOn h, before.map String.ofList, after.map String.ofList, ?_⟩
    have hid : [':'].intercalate (id.toList.splitOn ':') = id.toList := List.intercalate_splitOn ':'
    rw [hsplit] at hid
    have htexts : (before.map String.ofList ++ base :: after.map String.ofList).map String.toList =
        before ++ base.toList :: after := by
      simp [Function.comp_def]
    rw [← String.toList_inj, String.toList_intercalate, htexts]
    exact hid.symm
  · rintro ⟨hcolon, before, after, rfl⟩
    exact mem_splitOn_intercalate hcolon before after

/-! ### The reserved ids -/

namespace ReservedIds

/-- The four reserved ids of `r`; `Distinguishes` holds when they are different. -/
def ids (r : ReservedIds) : List String :=
  [r.head, r.body, r.root, r.viewState]

/-- The id `id` is none of the three that stand for regions. -/
structure Regionless (r : ReservedIds) (id : String) : Prop where
  not_head : id ≠ r.head
  not_body : id ≠ r.body
  not_root : id ≠ r.root

variable {r : ReservedIds}

theorem Regionless.classify_eq_viewState_iff {id : String} (h : r.Regionless id) :
    r.classify id = .viewState ↔ ':' ∉ r.viewState.toList ∧ Qualifies id r.viewState := by
  rw [← mem_idSegments_iff, classify, if_neg h.not_head, if_neg h.not_body, if_neg h.not_root]
  split
  · rename_i hmem
    exact iff_of_true rfl hmem
  · rename_i hmem
    exact iff_of_false (by decide) hmem

/-- An `id` that stands neither for a region nor for the token stands for an element. -/
theorem Regionless.classify_eq_element_iff {id : String} (h : r.Regionless id) :
    r.classify id = .element ↔ r.classify id ≠ .viewState := by
  rw [classify, if_neg h.not_head, if_neg h.not_body, if_neg h.not_root]
  split <;> decide

/-- What ids stand for when the reserved ones of `r` are told apart. -/
structure Distinguishes (r : ReservedIds) : Prop where
  head : r.classify r.head = .head
  body : r.classify r.body = .body
  root : r.classify r.root = .root
  /-- The view-state id stands for the token exactly if it has no colon. -/
  viewState_iff : r.classify r.viewState = .viewState ↔ ':' ∉ r.viewState.toList
  /-- So does every id with further segments around it that does not stand for a region. -/
  qualified_iff : ∀ id, Qualifies id r.viewState → r.Regionless id →
    (r.classify id = .viewState ↔ ':' ∉ r.viewState.toList)
  /-- With a colon in the view-state id, all ids but those of the regions stand for elements. -/
  lost : ':' ∈ r.viewState.toList → ∀ id, r.Regionless id → r.classify id = .element
  /-- All other ids stand for elements. -/
  element : ∀ id, r.Regionless id → ¬ Qualifies id r.viewState → r.classify id = .element

/-- **What ids stand for**, when no two of the reserved ones are the same: `r` distinguishes them.
    Whether one of them is empty does not matter. -/
theorem distinguishes (hdistinct : r.ids.Nodup) : r.Distinguishes := by
  simp only [ids, List.nodup_cons, List.mem_cons, List.not_mem_nil, or_false, not_or,
    not_false_eq_true, List.nodup_nil, and_true] at hdistinct
  obtain ⟨⟨hheadBody, hheadRoot, hheadState⟩, ⟨hbodyRoot, hbodyState⟩, hrootState⟩ := hdistinct
  -- the view-state id itself is none of a region, so the laws below are about it as well
  have hstate : r.Regionless r.viewState :=
    ⟨Ne.symm hheadState, Ne.symm hbodyState, Ne.symm hrootState⟩
  have hqualified : ∀ id, Qualifies id r.viewState → r.Regionless id →
      (r.classify id = .viewState ↔ ':' ∉ r.viewState.toList) := by
    intro id hid hregion
    rw [hregion.classify_eq_viewState_iff, and_iff_left hid]
  exact {
    head := if_pos rfl
    body := by rw [classify, if_neg (Ne.symm hheadBody), if_pos rfl]
    root := by rw [classify, if_neg (Ne.symm hheadRoot), if_neg (Ne.symm hbodyRoot), if_pos rfl]
    viewState_iff := hqualified _ (.refl _) hstate
    qualified_iff := hqualified
    lost := by
      intro hcolon id hregion
      rw [hregion.classify_eq_element_iff, Ne, hregion.classify_eq_viewState_iff]
      exact fun h => h.1 hcolon
    element := by
      intro id hregion hid
      rw [hregion.classify_eq_element_iff, Ne, hregion.classify_eq_viewState_iff]
      exact fun h => hid h.2 }

/-- Reserved ids of which `head` qualifies the view-state id `t`. -/
def nested : ReservedIds where
  head := "t:head"
  body := "b"
  root := "r"
  viewState := "t"

/-- The `head` of `nested` keeps its own id, and other ids around the view-state id stand for the
    token. -/
theorem distinguishes_nested : nested.ids.Nodup ∧ nested.Distinguishes ∧
    nested.classify "t:head" = .head ∧ nested.classify "form:t:0" = .viewState ∧
      nested.classify "form:t2" = .element := by
  have hdistinct : nested.ids.Nodup := by decide
  have h := distinguishes hdistinct
  have haround : Qualifies "form:t:0" nested.viewState := ⟨["form"], ["0"], rfl⟩
  refine ⟨hdistinct, h, h.head, ?_, by decide⟩
  exact (h.qualified_iff _ haround ⟨by decide, by decide, by decide⟩).mpr (by decide)

end ReservedIds

/-- A usable configuration whose view-state id `app:state` has two segments. -/
def twoSegments : EngineConfig where
  endpoint := some {
    scheme := "http", username := "", password := "",
    host := some (.name "localhost"), port := none,
    path := .segments ["app"], query := none, fragment := none }
  reserved := { viewState := "app:state" }

/-- The view-state id of `twoSegments` does not stand for the token. -/
theorem viewState_unfound : (∃ endpoint, twoSegments.validate = .ok endpoint) ∧
    twoSegments.reserved.ids.Nodup ∧
    twoSegments.reserved.classify "app:state" = .element ∧
    twoSegments.reserved.classify twoSegments.reserved.viewState ≠ .viewState := by
  refine ⟨⟨_, rfl⟩, by decide, by decide, by decide⟩

end PagePatch
