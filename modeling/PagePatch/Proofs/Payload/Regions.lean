import PagePatch.Payload.Regions

namespace PagePatch

/-!
# Which update nodes are found in raw text

The search for update nodes takes no notice of the structure of a payload. It finds the nodes that
were written one after another all the same, as long as the markup in them has no quotes: without a
quote no other node can begin.

* `updateText` — an update node as it is written;
* `updateNodes_unquoted` — no node begins in markup without quotes;
* `untilUpdateEnd_markup` — a node ends at its end tag or at one in its markup;
* `ids_updateNodes` — the ids of the nodes that are found;
* `HoldsRegion` — when there are changes at all, and which comes first.
-/

/-! ### Parts of a text -/

namespace Text

/-- The `pattern` is dropped from the front of `s` if `s` is this pattern and the `rest` behind
    it. -/
theorem dropPrefix?_eq_some_iff {pattern s rest : List Char} :
    dropPrefix? pattern s = some rest ↔ s = pattern ++ rest := by
  induction pattern generalizing s with
  | nil => simp [dropPrefix?, eq_comm]
  | cons p pattern ih =>
    cases s with
    | nil => simp [dropPrefix?]
    | cons c s =>
      by_cases hpc : p = c
      · subst hpc
        simp [dropPrefix?, ih]
      · simp [dropPrefix?, hpc, Ne.symm hpc]

/-- What stands in front of the `rest` behind blanks is no tag, as a `<` is no blank. -/
theorem blanks_of_dropWhile {s rest : List Char} (h : s.dropWhile isBlank = rest) :
    ∃ blanks, s = blanks ++ rest ∧ '<' ∉ blanks := by
  refine ⟨s.takeWhile isBlank, by rw [← h, List.takeWhile_append_dropWhile], ?_⟩
  intro hmem
  have hblank := List.all_eq_true.mp List.all_takeWhile '<' hmem
  revert hblank
  decide

/-- Where one text holds the first `p` behind a part without it, and another reading of the text has
    a `q` behind such a part, the `q` comes first. -/
theorem split_before {a b x y : List Char} {p q : Char} (h : a ++ p :: x = b ++ q :: y)
    (hb : p ∉ b) (hne : q ≠ p) : ∃ c, a = b ++ q :: c ∧ y = c ++ p :: x := by
  rcases List.append_eq_append_iff.mp h with ⟨c, rfl, hc⟩ | ⟨c, rfl, hc⟩
  · cases c with
    | nil => exact absurd (List.cons.inj hc).1.symm hne
    | cons first c =>
      obtain ⟨rfl, -⟩ := List.cons.inj hc
      exact absurd (List.mem_append_right a List.mem_cons_self) hb
  · cases c with
    | nil => exact absurd (List.cons.inj hc).1 hne
    | cons first c =>
      obtain ⟨rfl, rfl⟩ := List.cons.inj hc
      exact ⟨c, rfl, rfl⟩

end Text

/-! ### Tags of update nodes -/

/-- A start tag has a `quote` around its id, and no other tag begins before this quote. -/
theorem quote_of_updateStart? {s id rest : List Char} (h : updateStart? s = some (id, rest)) :
    ∃ head quote tail, s = '<' :: head ++ quote :: tail ∧ '<' ∉ head ∧
      (quote = '"' ∨ quote = '\'') := by
  unfold updateStart? at h
  obtain ⟨s₁, hname, h⟩ := Option.bind_eq_some_iff.mp h
  dsimp only at h
  split at h
  · cases h
  obtain ⟨s₂, hid, h⟩ := Option.bind_eq_some_iff.mp h
  obtain ⟨s₃, hequals, h⟩ := Option.bind_eq_some_iff.mp h
  rw [Text.dropPrefix?_eq_some_iff] at hname hid hequals
  split at h
  · cases h
  · rename_i quote s₄ hquote
    split at h
    · cases h
    · rename_i hfaults
      rw [Bool.or_eq_true, Bool.or_eq_true, not_or, not_or] at hfaults
      obtain ⟨b₁, rfl, hb₁⟩ := Text.blanks_of_dropWhile hid
      obtain ⟨b₂, rfl, hb₂⟩ := Text.blanks_of_dropWhile hequals
      obtain ⟨b₃, rfl, hb₃⟩ := Text.blanks_of_dropWhile hquote
      refine ⟨"update".toList ++ b₁ ++ "id".toList ++ b₂ ++ ['='] ++ b₃, quote, s₄, ?_, ?_, ?_⟩
      · rw [hname]
        simp
      · simp [hb₁, hb₂, hb₃]
      · simpa only [Bool.not_eq_true', Bool.not_eq_false, Bool.or_eq_true, beq_iff_eq]
          using hfaults.1.1

/-- An end tag goes up to a `>`, and no other tag begins before it. -/
theorem end_of_updateEnd? {s behind : List Char} (h : updateEnd? s = some behind) :
    ∃ head, s = '<' :: head ++ '>' :: behind ∧ '<' ∉ head := by
  unfold updateEnd? at h
  obtain ⟨s₁, hname, hend⟩ := Option.bind_eq_some_iff.mp h
  rw [Text.dropPrefix?_eq_some_iff] at hname hend
  obtain ⟨b, rfl, hb⟩ := Text.blanks_of_dropWhile hend
  refine ⟨"/update".toList ++ b, ?_, ?_⟩
  · rw [hname]
    simp
  · simp [hb]

/-! ### Markup without quotes -/

/-- No start tag begins in a text `s` without quotes that is followed by the next tag. -/
theorem updateStart?_unquoted {s rest : List Char} (hs : s ≠ []) (hdouble : '"' ∉ s)
    (hsingle : '\'' ∉ s) : updateStart? (s ++ '<' :: rest) = none := by
  cases hstart : updateStart? (s ++ '<' :: rest) with
  | none => rfl
  | some node =>
    obtain ⟨head, quote, tail, hsplit, hhead, hquote⟩ := quote_of_updateStart? hstart
    obtain ⟨c, s, rfl⟩ := List.exists_cons_of_ne_nil hs
    have hne : quote ≠ '<' := by rcases hquote with rfl | rfl <;> decide
    -- the quote of the tag stands before the next tag begins, so in `s`
    obtain ⟨between, rfl, -⟩ := Text.split_before (List.cons.inj hsplit).2 hhead hne
    rcases hquote with rfl | rfl
    · exact absurd (by simp) hdouble
    · exact absurd (by simp) hsingle

/-- So no node begins in a text `s` without quotes, and the search goes on at the next tag. -/
theorem updateNodes_unquoted {s : List Char} (hdouble : '"' ∉ s) (hsingle : '\'' ∉ s)
    (rest : List Char) : updateNodes (s ++ '<' :: rest) = updateNodes ('<' :: rest) := by
  induction s with
  | nil => rfl
  | cons c s ih =>
    have hnone : updateNode? (c :: s ++ '<' :: rest) = none := by
      rw [updateNode?, updateStart?_unquoted (List.cons_ne_nil c s) hdouble hsingle]
      rfl
    rw [List.mem_cons, not_or] at hdouble hsingle
    rw [List.cons_append] at hnone ⊢
    rw [updateNodes, updateNodesFrom]
    simp only [hnone]
    exact ih hdouble.2 hsingle.2

/-- Nor does a node begin in a text `s` without a tag, whatever `rest` follows it. -/
theorem updateNodes_untagged {s : List Char} (hs : '<' ∉ s) (rest : List Char) :
    updateNodes (s ++ rest) = updateNodes rest := by
  induction s with
  | nil => rfl
  | cons c s ih =>
    rw [List.mem_cons, not_or] at hs
    obtain ⟨hc, hrest⟩ := hs
    have hnone : updateNode? (c :: (s ++ rest)) = none := by
      cases hnode : updateNode? (c :: (s ++ rest)) with
      | none => rfl
      | some node =>
        obtain ⟨start, hstart, -⟩ := Option.bind_eq_some_iff.mp hnode
        obtain ⟨head, quote, tail, hsplit, -⟩ := quote_of_updateStart? hstart
        exact absurd (List.cons.inj hsplit).1.symm hc
    rw [List.cons_append, updateNodes, updateNodesFrom]
    simp only [hnone]
    exact ih hrest

/-! ### Nodes as they are written -/

/-- An update node as it is written: its `id` in double quotes, and its `markup` as it is. -/
def updateText (id markup : List Char) : List Char :=
  "<update id=\"".toList ++ id ++ "\">".toList ++ markup ++ "</update>".toList

/-- A written node in front of a `rest`, which then stands behind its end tag. -/
theorem updateText_append (id markup rest : List Char) : updateText id markup ++ rest =
    '<' :: ("update id=\"".toList ++ id ++ "\">".toList ++
      (markup ++ "</update>".toList ++ rest)) := by
  have hhead : "<update id=\"".toList = '<' :: "update id=\"".toList := by decide
  unfold updateText
  rw [hhead]
  -- the texts themselves do not count
  generalize "update id=\"".toList = head
  generalize "\">".toList = middle
  generalize "</update>".toList = last
  simp only [List.cons_append, List.append_assoc]

/-- The start tag of a written node is found, unless the `id` is empty. -/
theorem updateStart?_written {id : List Char} (hid : id ≠ []) (hdouble : '"' ∉ id)
    (hsingle : '\'' ∉ id) (rest : List Char) :
    updateStart? ("<update id=\"".toList ++ id ++ "\">".toList ++ rest) = some (id, rest) := by
  have hquotes : ∀ c ∈ id, (!(c == '"' || c == '\'')) = true := by
    intro c hc
    have hne : c ≠ '"' ∧ c ≠ '\'' :=
      ⟨fun heq => hdouble (heq ▸ hc), fun heq => hsingle (heq ▸ hc)⟩
    simp [hne]
  have htake : (id ++ '"' :: '>' :: rest).takeWhile (fun c => !(c == '"' || c == '\'')) = id :=
    (List.takeWhile_append_of_pos hquotes).trans (List.append_nil id)
  have hdrop : (id ++ '"' :: '>' :: rest).dropWhile (fun c => !(c == '"' || c == '\'')) =
      '"' :: '>' :: rest := List.dropWhile_append_of_pos hquotes
  have hempty : id.isEmpty = false := List.isEmpty_eq_false_iff.mpr hid
  have hall : "<update id=\"".toList ++ id ++ "\">".toList ++ rest =
      "<update id=\"".toList ++ (id ++ '"' :: '>' :: rest) := by simp
  rw [hall]
  generalize id ++ '"' :: '>' :: rest = s at htake hdrop
  have hblank : ¬ ('i' :: 'd' :: '=' :: '"' :: s).length =
      (' ' :: 'i' :: 'd' :: '=' :: '"' :: s).length := (Nat.succ_ne_self _).symm
  simp only [updateStart?, String.reduceToList, List.cons_append, List.nil_append]
  refine (if_neg hblank).trans ?_
  show (if (!('"' == '"' || '"' == '\'') || (s.takeWhile _).isEmpty || (s.dropWhile _).isEmpty)
    then _ else ((Text.dropPrefix? ['>'] (((s.dropWhile _).drop 1).dropWhile Text.isBlank)).bind
      fun s' => some (s.takeWhile _, s'))) = _
  rw [htake, hdrop, hempty]
  rfl

/-- In a start tag with an empty id no node is found, and the search goes on in `rest`, behind the
    tag. -/
theorem updateNodes_unnamed (rest : List Char) :
    updateNodes ("<update id=\"\">".toList ++ rest) = updateNodes rest := by
  have hstart : updateStart? ('<' :: ("update id=\"\">".toList ++ rest)) = none := by
    simp [updateStart?, Text.dropPrefix?, Text.isBlank]
  have hnone : updateNode? ('<' :: ("update id=\"\">".toList ++ rest)) = none := by
    rw [updateNode?, hstart]
    rfl
  show updateNodes ('<' :: ("update id=\"\">".toList ++ rest)) = _
  rw [updateNodes, updateNodesFrom]
  simp only [hnone]
  exact updateNodes_untagged (by decide) rest

/-- A node ends at the end tag behind its `markup`, or at one in its markup, of which a part is then
    `left` behind the node. -/
theorem untilUpdateEnd_markup (markup rest : List Char) : ∃ inner behind,
    untilUpdateEnd (markup ++ "</update>".toList ++ rest) = some (inner, behind) ∧
      (behind = rest ∨ ∃ left, left <:+ markup ∧ behind = left ++ "</update>".toList ++ rest) := by
  induction markup with
  | nil => exact ⟨[], rest, rfl, .inl rfl⟩
  | cons c markup ih =>
    cases hend : updateEnd? (c :: (markup ++ "</update>".toList ++ rest)) with
    | some behind =>
      obtain ⟨head, hsplit, hhead⟩ := end_of_updateEnd? hend
      have htail : markup ++ '<' :: ("/update>".toList ++ rest) = head ++ '>' :: behind := by
        simpa using (List.cons.inj hsplit).2
      -- the end tag is over before the next tag begins, so it stands in the markup
      obtain ⟨left, rfl, rfl⟩ := Text.split_before htail hhead (by decide)
      refine ⟨[], left ++ '<' :: ("/update>".toList ++ rest), ?_, .inr ⟨left, ?_, ?_⟩⟩
      · rw [List.cons_append, List.cons_append, untilUpdateEnd, hend]
      · exact ⟨c :: head ++ ['>'], by simp⟩
      · simp
    | none =>
      obtain ⟨inner, behind, hinner, hbehind⟩ := ih
      refine ⟨c :: inner, behind, ?_, ?_⟩
      · rw [List.cons_append, List.cons_append, untilUpdateEnd, hend]
        simp only [hinner, Option.map_some]
      · rcases hbehind with hrest | ⟨left, hleft, hbehind⟩
        · exact .inl hrest
        · exact .inr ⟨left, hleft.trans (List.suffix_cons c markup), hbehind⟩

/-- The characters of a node that was found, `skip` of them, are passed over. -/
theorem updateNodesFrom_eq (skip : Nat) (s : List Char) :
    updateNodesFrom skip s = updateNodes (s.drop skip) := by
  induction s generalizing skip with
  | nil => simp [updateNodes, updateNodesFrom]
  | cons c s ih =>
    cases skip with
    | zero => rfl
    | succ skip => exact ih skip

/-- A node in front is found, and the search goes on with what is `behind` it. -/
theorem updateNodes_of_node {c : Char} {s id inner behind : List Char}
    (h : updateNode? (c :: s) = some (id, inner, behind)) (hbehind : behind <:+ s) :
    updateNodes (c :: s) = (id, inner) :: updateNodes behind := by
  obtain ⟨passed, rfl⟩ := hbehind
  rw [updateNodes, updateNodesFrom]
  simp only [h, updateNodesFrom_eq, List.length_append, Nat.add_sub_cancel, List.drop_left]

/-- A written node with an id is found with some markup `inner`, and what is `behind` it is `rest`
    itself or begins inside of its `markup`. -/
theorem updateNode?_written {id : List Char} (hne : id ≠ []) (hid : '"' ∉ id ∧ '\'' ∉ id)
    (markup rest : List Char) : ∃ inner behind,
    updateNode? (updateText id markup ++ rest) = some (id, inner, behind) ∧
      (behind = rest ∨ ∃ left, left <:+ markup ∧ behind = left ++ "</update>".toList ++ rest) := by
  obtain ⟨inner, behind, hinner, hbehind⟩ := untilUpdateEnd_markup markup rest
  refine ⟨inner, behind, ?_, hbehind⟩
  have hwritten : updateText id markup ++ rest = "<update id=\"".toList ++ id ++ "\">".toList ++
      (markup ++ "</update>".toList ++ rest) := updateText_append id markup rest
  rw [hwritten, updateNode?, updateStart?_written hne hid.1 hid.2]
  simp only [Option.bind_eq_bind, Option.bind_some, hinner]
  rfl

/-- What is `left` of markup without quotes holds no node, nor does the end tag behind it. -/
theorem updateNodes_left {left markup : List Char} (hmarkup : '"' ∉ markup ∧ '\'' ∉ markup)
    (hleft : left <:+ markup) (rest : List Char) :
    updateNodes (left ++ "</update>".toList ++ rest) = updateNodes rest := by
  rw [List.append_assoc]
  exact updateNodes_unquoted (fun hmem => hmarkup.1 (hleft.subset hmem))
    (fun hmem => hmarkup.2 (hleft.subset hmem)) _

/-- **Of a node that was written one is found,** unless its `id` is empty: with the same id, and
    with some markup. -/
theorem updateNodes_updateText {id markup : List Char} (hid : '"' ∉ id ∧ '\'' ∉ id)
    (hmarkup : '"' ∉ markup ∧ '\'' ∉ markup) (rest : List Char) :
    ∃ inner, updateNodes (updateText id markup ++ rest) =
      (if id = [] then [] else [(id, inner)]) ++ updateNodes rest := by
  by_cases hempty : id = []
  · subst hempty
    refine ⟨[], ?_⟩
    rw [if_pos rfl, List.nil_append]
    calc updateNodes (updateText [] markup ++ rest)
        = updateNodes ("<update id=\"\">".toList ++ (markup ++ "</update>".toList ++ rest)) := by
          unfold updateText
          simp
      _ = updateNodes (markup ++ "</update>".toList ++ rest) := updateNodes_unnamed _
      _ = updateNodes rest := updateNodes_left hmarkup (List.suffix_refl markup) rest
  · obtain ⟨inner, behind, hnode, hbehind⟩ := updateNode?_written hempty hid markup rest
    refine ⟨inner, ?_⟩
    rw [if_neg hempty, List.singleton_append]
    rw [updateText_append] at hnode ⊢
    have hsuffix : behind <:+ markup ++ "</update>".toList ++ rest := by
      rcases hbehind with rfl | ⟨left, hleft, rfl⟩
      · exact List.suffix_append _ _
      · obtain ⟨before, rfl⟩ := hleft
        exact ⟨before, by simp⟩
    rw [updateNodes_of_node hnode (hsuffix.trans (List.suffix_append _ _))]
    -- wherever the node ends, no other one begins before `rest`
    rcases hbehind with rfl | ⟨left, hleft, rfl⟩
    · rfl
    · rw [updateNodes_left hmarkup hleft rest]

/-- **Of nodes written one after another those with an id are found,** in their order, and then
    those of the `rest`. -/
theorem ids_updateNodes (updates : List (List Char × List Char))
    (hids : ∀ u ∈ updates, '"' ∉ u.1 ∧ '\'' ∉ u.1)
    (hmarkup : ∀ u ∈ updates, '"' ∉ u.2 ∧ '\'' ∉ u.2) (rest : List Char) :
    (updateNodes (updates.flatMap (fun u => updateText u.1 u.2) ++ rest)).map Prod.fst =
      (updates.map Prod.fst).filter (· ≠ []) ++ (updateNodes rest).map Prod.fst := by
  induction updates with
  | nil => rfl
  | cons u updates ih =>
    obtain ⟨hid, hids'⟩ := List.forall_mem_cons.mp hids
    obtain ⟨hmarkup', hmarkups⟩ := List.forall_mem_cons.mp hmarkup
    obtain ⟨inner, hfirst⟩ := updateNodes_updateText hid hmarkup'
      (updates.flatMap (fun u => updateText u.1 u.2) ++ rest)
    rw [List.flatMap_cons, List.append_assoc, hfirst, List.map_append, ih hids' hmarkups]
    by_cases hempty : u.1 = [] <;> simp [hempty]

/-! ### Updates of regions -/

/-- An update node whose id stands for a region is found in the text `raw`. -/
def HoldsRegion (reserved : ReservedIds) (raw : String) : Prop :=
  ∃ node ∈ updateNodes raw.toList, (reserved.classify (String.ofList node.1)).isRegion = true

namespace ChangeSet

/-- A text `raw` without an update of a region makes no changes. -/
theorem ofRegions_of_none {reserved : ReservedIds} {raw : String}
    (h : ¬ HoldsRegion reserved raw) : ofRegions reserved raw = .error .noRegion := by
  unfold ofRegions
  have hnone : (updateNodes raw.toList).filter
      (fun node => (reserved.classify (String.ofList node.1)).isRegion) = [] := by
    rw [List.filter_eq_nil_iff]
    exact fun node hnode hregion => h ⟨node, hnode, hregion⟩
  simp only [hnone, List.isEmpty_nil, if_true]

/-- A text `raw` with an update of a region makes changes that begin with one, and among which no
    report is. -/
theorem ofRegions_of_some {reserved : ReservedIds} {raw : String}
    (h : HoldsRegion reserved raw) : ∃ changes id markup rest,
      ofRegions reserved raw = .ok changes ∧
      changes.operations = .update id markup :: rest ∧
      (reserved.classify id).isRegion = true ∧
      ∀ name message, .error name message ∉ changes.operations := by
  obtain ⟨node, hnode, hregion⟩ := h
  unfold ofRegions
  cases hfound : (updateNodes raw.toList).filter
      (fun node => (reserved.classify (String.ofList node.1)).isRegion) with
  | nil =>
    rw [List.filter_eq_nil_iff] at hfound
    exact absurd hregion (hfound node hnode)
  | cons first others =>
    have hfirst := (List.mem_filter.mp (hfound ▸ List.mem_cons_self)).2
    refine ⟨_, String.ofList first.1, _, _, rfl, rfl, hfirst, ?_⟩
    intro name message hmem
    obtain ⟨other, -, hother⟩ := List.mem_map.mp hmem
    cases hother

end ChangeSet

end PagePatch
