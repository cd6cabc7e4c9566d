import PagePatch.Page.Document
import PagePatch.Patch.Apply
import PagePatch.Proofs.Document.Told
import PagePatch.Proofs.Html.Distinct
import PagePatch.Proofs.Page.Update
import PagePatch.Proofs.Payload.Wire
import PagePatch.Proofs.Xml.Rewriting

namespace PagePatch

/-!
# Markup that is not wrapped

Markup in an update that is not wrapped in character data is read as part of the document, written
out again and only then read as a piece of a page. On this way a text or a value changes its meaning
if its references mean something else in a document than on a page.

* `Box` — an element made of `div` and `span` elements;
* `Box.content_addTo` — the markup that is made of it;
* `Box.Survives` — when it keeps its meaning;
* `Page.updated` — what an update makes of a page;
* `unwrapped_apply` — it makes no difference whether a box is wrapped if it survives, and only then.
-/

open Xml (Run Content cdataStart cdataEnd cdataText splitEnds unescapeOrRaw endTagText
  attributesText attributeText)
open Html (Flow BoxTag boxText)

/-! ### Writing out again -/

/-- The text `s` as it is written out again: its references are replaced, if all of them are known,
    and then the characters are escaped. -/
def rewrittenText (s : List Char) : List Char :=
  (unescapeOrRaw s).flatMap Xml.escapeInText

/-- The value `s` of an attribute as it is written out again. -/
def rewrittenValue (s : List Char) : List Char :=
  (unescapeOrRaw s).flatMap Xml.escapeInValue

/-- A run of text as it is written out again. Nothing in it looks like a tag, as `<` is escaped. -/
def rewrittenRun (run : Run) : Run where
  chars := rewrittenText run.chars
  plain := Xml.lt_not_mem_escapeInText _

/-- The attribute `a` as it is written out again: its key is kept. -/
def rewrittenAttribute (a : List Char × List Char) : List Char × List Char :=
  (a.1, rewrittenValue a.2)

/-- The tag `t` as it is written out again. It is one for a box again, as the values have no
    quotes. -/
def rewrittenTag (t : BoxTag) : BoxTag where
  name := t.name
  attributes := t.attributes.map rewrittenAttribute
  isName := t.isName
  keys := by
    intro a ha
    obtain ⟨b, hb, rfl⟩ := List.mem_map.mp ha
    exact t.keys b hb
  values := by
    intro a ha
    obtain ⟨b, -, rfl⟩ := List.mem_map.mp ha
    exact Xml.quote_not_mem_escapeInValue _
  distinct := by
    rw [List.map_map]
    exact t.distinct
  isBox := t.isBox
  whole := by
    intro a ha
    obtain ⟨b, hb, rfl⟩ := List.mem_map.mp ha
    exact t.whole b hb

/-- Text with boxes in it, `x`, as it is written out again. -/
def rewrittenFlow (x : Flow Run BoxTag) : Flow Run BoxTag :=
  x.map rewrittenRun rewrittenTag

/-! ### Boxes in documents -/

/-- Text with boxes in it, as part of a document: `Content` has more than this. -/
def flowContent : Flow Run BoxTag → Content
  | .text run => .text run
  | .element before tag inner after =>
    .element before tag.toTag (flowContent inner) (flowContent after)

/-- The flow `x` is written alike, whether as part of a document or of a page. -/
theorem write_flowContent (x : Flow Run BoxTag) : (flowContent x).write = x.write := by
  induction x with
  | text run => rfl
  | element before tag inner after ihInner ihAfter =>
    rw [flowContent, Content.write, Flow.write, ihInner, ihAfter, boxText, BoxTag.write]
    simp

/-- The nodes `ns` and `ms` are written one after the other. -/
theorem writeNodes_append (raw : Bool) (ns ms : List Xml.Node) :
    Xml.writeNodes raw (ns ++ ms) = Xml.writeNodes raw ns ++ Xml.writeNodes raw ms := by
  induction ns with
  | nil => rfl
  | cons n ns ih => rw [List.cons_append, Xml.writeNodes, Xml.writeNodes, ih, List.append_assoc]

/-- A text `s` that is added to an element is written behind what was there, whether or not it is
    joined to a text in front of it. -/
theorem writeNodes_addText (e : Xml.Element) (s : String) :
    Xml.writeNodes false (e.addText s).children =
      Xml.writeNodes false e.children ++ s.toList.flatMap Xml.escapeInText := by
  unfold Xml.Element.addText
  split
  · rename_i before hlast
    -- the last child is a text, to which the new one is joined
    have hchildren : e.children = e.children.dropLast ++ [.text before] :=
      (List.dropLast_append_getLast? _ hlast).symm
    have hbefore : Xml.writeNodes false e.children =
        Xml.writeNodes false e.children.dropLast ++ before.toList.flatMap Xml.escapeInText := by
      rw [hchildren, writeNodes_append, ← hchildren]
      simp [Xml.writeNodes, Xml.Node.write]
    rw [hbefore, writeNodes_append]
    simp [Xml.writeNodes, Xml.Node.write]
  · rw [Xml.Element.addChild, writeNodes_append]
    simp [Xml.writeNodes, Xml.Node.write]

/-- A `run` of text that is added to the element `e` is written out again behind what was there. -/
theorem writeNodes_run (run : Run) (e : Xml.Element) :
    Xml.writeNodes false (run.addTo e).children =
      Xml.writeNodes false e.children ++ (rewrittenRun run).chars := by
  unfold Xml.Run.addTo
  split
  · rename_i hempty
    have hchars : (rewrittenRun run).chars = [] := by
      show rewrittenText run.chars = []
      rw [List.isEmpty_iff.mp hempty]
      rfl
    rw [hchars, List.append_nil]
  · rw [writeNodes_addText, String.toList_ofList]
    rfl

/-- A child `n` that is added to the element `e` is written behind what was there. -/
theorem writeNodes_addChild (e : Xml.Element) (n : Xml.Node) :
    Xml.writeNodes false (e.addChild n).children =
      Xml.writeNodes false e.children ++ n.write false := by
  rw [Xml.Element.addChild, writeNodes_append, Xml.writeNodes, Xml.writeNodes, List.append_nil]

/-- The start tag of the box `t` is written out again, with its attributes in their order. -/
theorem writeStart_box (t : BoxTag) :
    Xml.writeStart (String.ofList t.name) t.toTag.element.attributes = (rewrittenTag t).write := by
  have hattributes : t.toTag.element.attributes.flatMap Xml.writeAttribute =
      attributesText (t.attributes.map rewrittenAttribute) := by
    rw [Xml.Tag.element, attributesText, List.flatMap_map, List.flatMap_map]
    congr 1
    funext a
    simp [Xml.writeAttribute, attributeText, rewrittenAttribute, rewrittenValue]
  rw [Xml.writeStart, hattributes, BoxTag.write, Xml.Tag.inside, String.toList_ofList]
  rfl

/-- **A box is written out again** from its element `e`, whatever stands around it: a box is neither
    void nor a place for raw text. -/
theorem write_box (raw : Bool) (t : BoxTag) {e : Xml.Element}
    (hname : e.name = String.ofList t.name)
    (hattributes : e.attributes = t.toTag.element.attributes) {inner : List Char}
    (hinner : Xml.writeNodes false e.children = inner) :
    e.toNode.write raw = boxText (rewrittenTag t) inner := by
  have hvoid : Xml.isNamed (String.ofList t.name) Xml.voidElements = false := by
    rcases t.isBox with h | h <;> rw [h] <;> decide
  have hraw : Xml.isNamed (String.ofList t.name) Xml.rawTextElements = false := by
    rcases t.isBox with h | h <;> rw [h] <;> decide
  have hend : Xml.writeEnd (String.ofList t.name) = endTagText t.name := by
    unfold Xml.writeEnd endTagText
    simp
  rw [Xml.Element.toNode, Xml.Node.write, hname, hattributes, writeStart_box, hvoid, hraw, hinner,
    hend, Bool.false_and, if_neg Bool.false_ne_true, boxText, List.append_assoc]
  rfl

/-- **Text with boxes in it is written out again** when it is added to the element `e`, behind what
    was there. -/
theorem writeNodes_flow (x : Flow Run BoxTag) (e : Xml.Element) :
    Xml.writeNodes false ((flowContent x).addTo e).children =
      Xml.writeNodes false e.children ++ (rewrittenFlow x).write := by
  induction x generalizing e with
  | text run => exact writeNodes_run run e
  | element before tag inner after ihInner ihAfter =>
    have hinner : Xml.writeNodes false ((flowContent inner).addTo tag.toTag.element).children =
        (rewrittenFlow inner).write := ihInner _
    have hbox := write_box false tag ((flowContent inner).addTo_name tag.toTag.element)
      ((flowContent inner).addTo_attributes tag.toTag.element) hinner
    rw [flowContent, Content.addTo, ihAfter, writeNodes_addChild, writeNodes_run, hbox]
    simp [rewrittenFlow, Flow.map, Flow.write]

/-! ### Boxes -/

/-- An element made of `div` and `span` elements, with text anywhere in it. -/
structure Box where
  /-- Its own tag. -/
  tag : BoxTag
  /-- What stands in it. -/
  inner : Flow Run BoxTag

namespace Box

/-- The box `x` as a `Flow`, with no text around it. -/
def flow (x : Box) : Flow Run BoxTag :=
  .element .empty x.tag x.inner (.text .empty)

/-- The box `x` as it is written. -/
def write (x : Box) : List Char :=
  boxText x.tag x.inner.write

/-- The box `x` as it is written out again. -/
def rewritten (x : Box) : Box where
  tag := rewrittenTag x.tag
  inner := rewrittenFlow x.inner

/-- The box `x` as part of a document. -/
def content (x : Box) : Content :=
  flowContent x.flow

/-- The box `x` is written alike as part of a document. -/
theorem write_content (x : Box) : x.content.write = x.write := by
  rw [content, write_flowContent, flow, Flow.write]
  exact List.append_nil _

/-- **What stands in an element is the box as it is written out again,** `x.rewritten`. This is the
    markup that an update with the box in it asks for. -/
theorem content_addTo (x : Box) (name : String) (attributes : List (String × String)) :
    (x.content.addTo ⟨name, attributes, []⟩).content = String.ofList x.rewritten.write := by
  have hinner := writeNodes_flow x.inner x.tag.toTag.element
  rw [Xml.Tag.element, Xml.writeNodes, List.nil_append, ← Xml.Tag.element] at hinner
  have hbox := write_box true x.tag ((flowContent x.inner).addTo_name x.tag.toTag.element)
    ((flowContent x.inner).addTo_attributes x.tag.toTag.element) hinner
  have hwritten : (x.content.addTo ⟨name, attributes, []⟩).content = String.ofList
      (((flowContent x.inner).addTo x.tag.toTag.element).toNode.write true ++ []) := rfl
  rw [hwritten, hbox, List.append_nil]
  rfl

/-- **A box is read as its trees**, from the markup that `x.write` gives. -/
theorem parseFragment_write (x : Box) :
    Html.parseFragment (String.ofList x.write) = x.flow.decoded.nodes :=
  Html.parseFragment_boxText x.tag x.inner

/-- No scripts are among the trees of the box `x`. -/
theorem scriptsOf_nodes (x : Box) : Html.scriptsOf x.flow.decoded.nodes = [] := by
  rw [Html.scriptsOf, List.filterMap_eq_nil_iff]
  rintro ⟨e, children⟩ hmem
  have he : e ∈ Html.Node.elementsIn x.flow.decoded.nodes :=
    List.mem_map_of_mem (f := Prod.fst) hmem
  rw [Flow.elementsIn_nodes] at he
  have hname : e.name ≠ "script" := by
    rcases (Flow.isBox_of_mem_decoded he).name with h | h <;> rw [h] <;> decide
  show Html.script? e children = none
  rw [Html.script?, decide_eq_true hname, Bool.true_or, if_pos rfl]

/-! ### What survives -/

/-- On a page, each text of the box `x` and each value that counts says the same when it is written
    out again. -/
def Survives (x : Box) : Prop :=
  (∀ run ∈ x.flow.texts, Html.textOf (rewrittenText run.chars) = Html.textOf run.chars) ∧
    ∀ tag ∈ x.flow.tags, ∀ a ∈ Html.kept tag.attributes,
      Html.valueOf (rewrittenValue a.2) = Html.valueOf a.2

instance (x : Box) : Decidable x.Survives :=
  inferInstanceAs (Decidable (_ ∧ _))

/-- A tag `t` that is written out again is read alike exactly if the values that count are. -/
theorem element_rewrittenTag_iff {t : BoxTag} :
    (rewrittenTag t).read.element = t.read.element ↔
      ∀ a ∈ Html.kept t.attributes, Html.valueOf (rewrittenValue a.2) = Html.valueOf a.2 := by
  rw [← Html.ofList_heldAttributes_eq_iff]
  constructor
  · exact fun h => congrArg Html.Element.attributes h
  · exact fun h => congrArg (fun attributes => { t.read.element with attributes }) h

/-- **A box survives exactly if it is read alike** when it is written out again, as
    `x.rewritten`. -/
theorem decoded_rewritten_iff {x : Box} :
    x.rewritten.flow.decoded = x.flow.decoded ↔ x.Survives := by
  have hflow : x.rewritten.flow = rewrittenFlow x.flow := rfl
  rw [hflow, rewrittenFlow, Flow.decoded, Flow.decoded, Flow.map_map, Flow.map_eq_map_iff, Survives]
  refine and_congr Iff.rfl (forall₂_congr fun tag _ => ?_)
  exact element_rewrittenTag_iff

/-- **Boxes are told by the markup of their trees**: two boxes `x` and `y` with the same markup are
    read alike. -/
theorem decoded_eq_of_writeAll {x y : Box} (h : Html.Node.writeAll x.flow.decoded.nodes =
    Html.Node.writeAll y.flow.decoded.nodes) : x.flow.decoded = y.flow.decoded := by
  have hmarkup := congrArg String.toList h
  rw [Flow.writeAll_nodes fun _ he => Flow.isBox_of_mem_decoded he,
    Flow.writeAll_nodes fun _ he => Flow.isBox_of_mem_decoded he] at hmarkup
  refine (Flow.markup_injective (fun _ he => Flow.isBox_of_mem_decoded he)
    (fun _ he => Flow.isBox_of_mem_decoded he) (.inl rfl) (.inl rfl) ?_).1
  rw [List.append_nil, List.append_nil, hmarkup]

end Box

/-! ### Wrapping -/

/-- A text in which there is no `]]>` to split. -/
def IsWhole (s : List Char) : Prop :=
  splitEnds s = s

/-- A text without a `>` has nothing to split. -/
theorem isWhole_of_not_mem {s : List Char} (hs : '>' ∉ s) : IsWhole s := by
  induction s with
  | nil => rfl
  | cons c s ih =>
    rw [List.mem_cons, not_or] at hs
    have hfront : ¬ cdataEnd <+: c :: s := by
      rintro ⟨rest, hrest⟩
      have hmem : '>' ∈ c :: s := by
        rw [← hrest]
        exact List.mem_append_left rest (by decide)
      exact (List.mem_cons.mp hmem).elim hs.1 hs.2
    rw [IsWhole, Xml.splitEnds_cons hfront, ih hs.2]

namespace IsWhole

variable {s t : List Char} {c : Char}

/-- Two whole texts make a whole one if a character `c` stands between them that is in no `]]>`. -/
protected theorem append (hc : c ∉ cdataEnd) (hs : IsWhole s) (ht : IsWhole (c :: t)) :
    IsWhole (s ++ c :: t) := by
  rw [IsWhole, Xml.splitEnds_append_cons hc, hs, ht]

/-- So do a text and another one with the end of a tag between them, as the `>` of a tag stands
    behind a character `c` that is no bracket. -/
theorem append_gt (hs : '>' ∉ s) (hc : c ∉ cdataEnd) (ht : IsWhole t) :
    IsWhole (s ++ c :: '>' :: t) := by
  have hne : c ≠ ']' := fun h => hc (h ▸ List.mem_cons_self)
  refine .append hc (isWhole_of_not_mem hs) ?_
  rw [IsWhole, Xml.splitEnds_cons_of_ne hne, Xml.splitEnds_cons_of_ne (by decide), ht]

end IsWhole

/-- The name of a box ends in a letter `c`. -/
theorem exists_name_eq (t : BoxTag) :
    ∃ s c, t.name = s ++ [c] ∧ '>' ∉ s ∧ c ∉ cdataEnd := by
  rcases t.isBox with h | h
  · exact ⟨['d', 'i'], 'v', h, by decide, by decide⟩
  · exact ⟨['s', 'p', 'a'], 'n', h, by decide, by decide⟩

/-- There is no `>` in a name. -/
theorem gt_not_mem_name {s : List Char} (h : Xml.IsName s) : '>' ∉ s :=
  fun hmem => absurd (List.all_eq_true.mp h.2 _ hmem) (by decide)

/-- What stands in a start tag ends in a letter of its name or in the quote of its last value, so it
    has no `]` before its `>`. -/
theorem exists_inside_eq {t : BoxTag} (h : ∀ a ∈ t.attributes, '>' ∉ a.2) :
    ∃ s c, t.inside = s ++ [c] ∧ '>' ∉ s ∧ c ∉ cdataEnd := by
  rcases List.eq_nil_or_concat t.attributes with hnil | ⟨as, a, has⟩
  · obtain ⟨s, c, hname, hs⟩ := exists_name_eq t
    exact ⟨s, c, by rw [Xml.Tag.inside, hnil, hname]; exact List.append_nil _, hs⟩
  · rw [List.concat_eq_append] at has
    have hattributes : '>' ∉ attributesText as := by
      intro hmem
      obtain ⟨b, hb, hgt⟩ := List.mem_flatMap.mp hmem
      have hb : b ∈ t.attributes := by
        rw [has]
        exact List.mem_append_left _ hb
      simp [attributeText, gt_not_mem_name (t.keys b hb), h b hb] at hgt
    have ha : a ∈ t.attributes := by
      rw [has]
      exact List.mem_append_right _ List.mem_cons_self
    refine ⟨t.name ++ (attributesText as ++ ' ' :: (a.1 ++ '=' :: '"' :: a.2)), '"', ?_, ?_,
      by decide⟩
    · rw [Xml.Tag.inside, has, attributesText, attributesText, List.flatMap_append,
        List.flatMap_singleton, attributeText]
      simp
    · simp [gt_not_mem_name t.isName, hattributes, gt_not_mem_name (t.keys a ha), h a ha]

/-- A box in front of a whole text `t` has nothing to split if what stands in it has nothing to
    split. -/
theorem isWhole_boxText {tag : BoxTag} (htag : ∀ a ∈ tag.attributes, '>' ∉ a.2)
    {inner t : List Char} (hinner : ∀ t, IsWhole ('<' :: t) → IsWhole (inner ++ '<' :: t))
    (ht : IsWhole t) : IsWhole (boxText tag inner ++ t) := by
  obtain ⟨front, c, hfront, hgt, hc⟩ := exists_inside_eq htag
  obtain ⟨back, c', hback, hgt', hc'⟩ := exists_name_eq tag
  have htext : boxText tag inner ++ t =
      '<' :: front ++ c :: '>' :: (inner ++ '<' :: ('/' :: back ++ c' :: '>' :: t)) := by
    simp [boxText, BoxTag.write, endTagText, hfront, hback]
  have hend : IsWhole ('<' :: ('/' :: back ++ c' :: '>' :: t)) :=
    .append_gt (s := '<' :: '/' :: back) (by simp [hgt']) hc' ht
  rw [htext]
  exact .append_gt (by simp [hgt]) hc (hinner _ hend)

/-- Text with boxes in it, `x`, has nothing to split in front of a tag. -/
theorem isWhole_flow {x : Flow Run BoxTag} (htexts : ∀ run ∈ x.texts, '>' ∉ run.chars)
    (htags : ∀ tag ∈ x.tags, ∀ a ∈ tag.attributes, '>' ∉ a.2) {t : List Char}
    (ht : IsWhole ('<' :: t)) : IsWhole (x.write ++ '<' :: t) := by
  induction x generalizing t with
  | text run =>
    exact .append (by decide) (isWhole_of_not_mem (htexts run List.mem_cons_self)) ht
  | element before tag inner after ihInner ihAfter =>
    rw [Flow.texts, List.forall_mem_cons, List.forall_mem_append] at htexts
    rw [Flow.tags, List.forall_mem_cons, List.forall_mem_append] at htags
    have hbox : IsWhole (boxText tag inner.write ++ (after.write ++ '<' :: t)) :=
      isWhole_boxText htags.1 (fun _ => ihInner htexts.2.1 htags.2.1)
        (ihAfter htexts.2.2 htags.2.2 ht)
    rw [Flow.write, List.append_assoc, List.append_assoc]
    exact .append (by decide) (isWhole_of_not_mem htexts.1) hbox

/-- A box without a `>` in its texts and values. -/
def Box.IsPlain (x : Box) : Prop :=
  (∀ run ∈ x.flow.texts, '>' ∉ run.chars) ∧
    ∀ tag ∈ x.flow.tags, ∀ a ∈ tag.attributes, '>' ∉ a.2

instance (x : Box) : Decidable x.IsPlain :=
  inferInstanceAs (Decidable (_ ∧ _))

/-- **A plain box is wrapped by putting the marks around it**, as `cdataText` finds nothing to
    split. -/
theorem Box.IsPlain.cdataText_write {x : Box} (h : x.IsPlain) :
    cdataText x.write = cdataStart ++ x.write ++ cdataEnd := by
  have htexts := h.1
  have htags := h.2
  rw [Box.flow, Flow.texts, List.forall_mem_cons, List.forall_mem_append] at htexts
  rw [Box.flow, Flow.tags, List.forall_mem_cons, List.forall_mem_append] at htags
  have hwhole : IsWhole (x.write ++ []) :=
    isWhole_boxText htags.1 (fun _ => isWhole_flow htexts.2.1 htags.2.1) rfl
  rw [List.append_nil] at hwhole
  rw [cdataText, hwhole]

/-! ### Responses -/

/-- A response with one update of `target`, and `markup` in it as it is. -/
def updatePayload (target : String) (markup : List Char) : String :=
  String.ofList ("<partial-response><changes><update id=\"".toList ++ Xml.escape target.toList ++
    "\">".toList ++ markup ++ "</update></changes></partial-response>".toList)

/-- What stands in the container of changes of a response that updates `target` with `c`. -/
def updateContent (target : String) (c : Content) : Content :=
  .element .empty (Wire.updateTag target) c (.text .empty)

/-- The response that updates `target` with `c` as a document. -/
def updateDocument (target : String) (c : Content) : Xml.Document where
  tag := Wire.responseTag none
  content := .element .empty Wire.changesTag (updateContent target c) (.text .empty)

/-- The document `updateDocument` is written as this response. -/
theorem updatePayload_write (target : String) (c : Content) :
    updatePayload target c.write = String.ofList (updateDocument target c).write := by
  refine congrArg String.ofList ?_
  simp [updateDocument, updateContent, Wire.responseTag, Wire.changesTag, Wire.updateTag,
    Wire.idAttribute, Run.empty, Xml.Blanks.empty, Xml.Document.write, Xml.Document.rootText,
    Xml.marginText, Content.write, Xml.Tag.inside, Xml.Tag.ofStrings, attributesText,
    attributeText, endTagText]

/-- An update is read as an update with what is made of its content `c`, whatever that is. -/
theorem changeOperations_update {target : String} (htarget : target ≠ "") (c : Content) :
    changeOperations (Wire.Child.element (Wire.updateTag target) c).toElement =
      .ok [.update target (c.addTo ⟨"update", [("id", target)], []⟩).content] := by
  have helement : (Wire.Child.element (Wire.updateTag target) c).toElement =
      c.addTo ⟨"update", [("id", target)], []⟩ := by
    rw [← Xml.Tag.element_ofStrings]
    rfl
  have hreads : Wire.Reads (Wire.Child.element (Wire.updateTag target) c).toElement "update"
      [("id", target)] := Wire.reads_element _
  simp only [changeOperations, hreads.name, hreads.requiredId rfl htarget, ← helement]
  rfl

/-- The container of changes is read as the update of `target` in it. -/
theorem operationsOf_changes {target : String} (htarget : target ≠ "") (c : Content) :
    operationsOf (Wire.Child.element Wire.changesTag (updateContent target c)).toElement =
      .ok [.update target (c.addTo ⟨"update", [("id", target)], []⟩).content] := by
  have hreads : Wire.Reads (Wire.Child.element Wire.changesTag
      (updateContent target c)).toElement "changes" [] := Wire.reads_element _
  have helements : (Wire.Child.element Wire.changesTag
      (updateContent target c)).toElement.elements =
        [(Wire.Child.element (Wire.updateTag target) c).toElement] := Wire.elements_element _
  simp only [operationsOf, hreads.name, helements, List.mapM_cons,
    changeOperations_update htarget]
  rfl

/-- **The response is read as the update**, with the content `c` as it is written out again. -/
theorem ofDocument_updatePayload {target : String} (htarget : target ≠ "") (c : Content) :
    ChangeSet.ofDocument (updatePayload target c.write) = .ok {
      operations := [.update target (c.addTo ⟨"update", [("id", target)], []⟩).content] } := by
  have hread : Xml.Element.parse (updatePayload target c.write) =
      .ok (updateDocument target c).root := by
    rw [updatePayload_write]
    exact Xml.parse_write _
  have hroot : Wire.Reads (updateDocument target c).root "partial-response" [] := by
    rw [Xml.Document.root, updateDocument, Wire.responseTag, Xml.Tag.element_ofStrings]
    exact Wire.reads_addTo _
  have helements : (updateDocument target c).root.elements =
      [(Wire.Child.element Wire.changesTag (updateContent target c)).toElement] := by
    rw [Xml.Document.root, Content.elements_addTo]
    rfl
  simp only [ChangeSet.ofDocument, hread, ChangeSet.ofElement, hroot.name, helements,
    List.mapM_cons, operationsOf_changes htarget, Xml.Element.attribute?, hroot.attributes]
  rfl

/-! ### Pages -/

/-- An instruction `i` that runs no code changes the page alone, whether or not it fails. -/
theorem install_eq {σ : Type} (host : ScriptHost σ) {i : Instruction}
    (hi : ∀ code, i ≠ .runScript code) (page : Page) (state : σ) :
    ((discard (host.document.tell i) >>= fun _ =>
      (pure () : Action (Page × σ) Unit) >>= fun _ => pure Outcome.done) (page, state)).2 =
      ((page.perform i).2, state) := by
  have htell : host.document.tell i (page, state) =
      ((page.perform i).1, (page.perform i).2, state) := by
    cases i with
    | runScript code => exact absurd rfl (hi code)
    | _ => rfl
  rw [Action.discard_eq_bind, Action.bind_apply, Action.bind_apply, htell]
  cases (page.perform i).1 <;> rfl

/-- An element `target` that is part of the page is updated with `markup` in which there are no
    scripts. -/
theorem updateElement_eq {σ : Type} (host : ScriptHost σ) {target markup : String}
    (hscripts : Html.scriptsOf (Html.parseFragment markup) = []) {page : Page}
    (hpage : page.contains target = true) (state : σ) :
    (host.document.updateElement target markup (page, state)).2 =
      (page.updated target (Html.parseFragment markup), state) := by
  have hasks : host.document.asks target (page, state) = (.ok true, page, state) := by
    rw [← hpage]
    rfl
  unfold Document.updateElement Page.updated
  rw [Action.bind_apply, hasks]
  simp only [if_true, hscripts, Document.runScripts]
  split
  · exact install_eq host (fun _ => Instruction.noConfusion) page state
  · exact install_eq host (fun _ => Instruction.noConfusion) page state

/-- **What an update makes of a page**: the page is `updated`, and the state of the scripts stays as
    it was. -/
theorem apply_update {σ : Type} (host : ScriptHost σ) {reserved : ReservedIds} {target : String}
    (htarget : reserved.classify target = .element) {markup : String}
    (hscripts : Html.scriptsOf (Html.parseFragment markup) = []) {page : Page}
    (hpage : page.contains target = true) (state : σ) :
    (host.document.apply reserved { operations := [.update target markup] } (page, state)).2 =
      (page.updated target (Html.parseFragment markup), state) := by
  have hone : host.document.applyOne reserved (.update target markup) =
      host.document.updateElement target markup := by
    rw [Document.applyOne, Document.applyUpdate, htarget]
  show (host.document.applyAll reserved [.update target markup] (page, state)).2 = _
  rw [Document.applyAll, hone, Action.bind_apply, ← updateElement_eq host hscripts hpage state]
  -- whatever comes of the update, nothing follows it
  generalize host.document.updateElement target markup (page, state) = done
  obtain ⟨result, after⟩ := done
  cases result with
  | error e => rfl
  | ok outcome =>
    dsimp only
    split
    · rfl
    · rfl

/-! ### A page that tells boxes apart -/

/-- A paragraph with the id `target`. -/
def paragraph (target : String) : Html.Element where
  name := "p"
  attributes := .ofList [{ name := "id", value := target }]

/-- The page with the one `paragraph` alone. -/
def paragraphPage (target : String) : Page where
  nodes := [.element (paragraph target) []]
  ids := idIndex [.element (paragraph target) []]

/-- The paragraph is found under its id `target`. -/
theorem find?_paragraphPage {target : String} (h : target ≠ "") :
    (paragraphPage target).find? target = some [0] := by
  have hindex : idIndex [.element (paragraph target) []] = [(target, [0])] := by
    have hid : (paragraph target).id? = some target := by
      simp [paragraph, Html.Element.id?, Html.Element.attribute?, Html.Attributes.ofList,
        Html.Attributes.insert, Html.Attributes.insertSorted, Html.Attributes.get?]
    simp [idIndex, Html.elementsAt, Html.Node.elementsFrom, Html.Node.elementsBelow, hid, h]
  rw [Page.find?, paragraphPage, hindex]
  simp

/-- The markup of the page after an update with the trees `fragment`: these alone if they bring the
    id along, or else the paragraph with them in it. -/
theorem html_updated_paragraphPage {target : String} (h : target ≠ "")
    (fragment : List Html.Node) : ((paragraphPage target).updated target fragment).html =
      if Html.soleId? fragment = some target then Html.Node.writeAll fragment
      else (paragraph target).startTag ++ Html.Node.writeAll fragment ++
        (paragraph target).endTag := by
  have hedit : ∀ f, ((paragraphPage target).editElement target f).2.html =
      Html.Node.writeAll (f (.element (paragraph target) [])) := by
    intro f
    rw [Page.editElement, find?_paragraphPage h]
    show Html.Node.writeAll (Html.editAt f [0] [.element (paragraph target) []]) = _
    simp [Html.editAt]
  rw [Page.updated]
  split
  · rw [hedit]
  · rw [hedit, Html.Node.withChildren, Html.Node.writeAll_element ⟨rfl, rfl⟩]
    exact String.append_empty

/-- The markup of the box `x` does not begin like that of a paragraph. -/
theorem writeAll_ne_paragraph (x : Box) (target : String) (rest : String) :
    Html.Node.writeAll x.flow.decoded.nodes ≠ (paragraph target).startTag ++ rest := by
  have hbox : Html.IsBox x.tag.read.element := Html.isBox_read x.tag
  have hnodes :
      x.flow.decoded.nodes = .element x.tag.read.element x.inner.decoded.nodes :: [] := rfl
  intro h
  rw [hnodes, Html.Node.writeAll_element hbox.holdsText] at h
  have htext := congrArg String.toList h
  simp only [String.toList_append, Html.Element.toList_startTag, List.cons_append,
    List.append_assoc, List.cons.injEq, true_and] at htext
  have hparagraph : (paragraph target).name = "p" := rfl
  rw [hparagraph] at htext
  rcases hbox.name with hname | hname <;> rw [hname] at htext <;>
    exact absurd (List.cons.inj htext).1 (by decide)

/-- **The page with a paragraph tells boxes apart**: if updates with `x` and `y` leave the same
    markup there, then these boxes are read alike. -/
theorem decoded_eq_of_html {target : String} (htarget : target ≠ "") {x y : Box}
    (h : ((paragraphPage target).updated target x.flow.decoded.nodes).html =
      ((paragraphPage target).updated target y.flow.decoded.nodes).html) :
    x.flow.decoded = y.flow.decoded := by
  rw [html_updated_paragraphPage htarget, html_updated_paragraphPage htarget] at h
  split at h
  · split at h
    · exact Box.decoded_eq_of_writeAll h
    · rw [String.append_assoc] at h
      -- the one box takes the place of the paragraph, the other one is put in it
      exact absurd h (writeAll_ne_paragraph x target _)
  · split at h
    · rw [String.append_assoc] at h
      exact absurd h.symm (writeAll_ne_paragraph y target _)
    · refine Box.decoded_eq_of_writeAll (String.toList_inj.mp ?_)
      have htext := congrArg String.toList h
      simp only [String.toList_append] at htext
      exact List.append_cancel_left (List.append_cancel_right htext)

/-! ### Wrapped or not -/

/-- A box `x` that is not wrapped is read as an update with `x.rewritten`. -/
theorem ofDocument_unwrapped {target : String} (htarget : target ≠ "") (x : Box) :
    ChangeSet.ofDocument (updatePayload target x.write) =
      .ok { operations := [.update target (String.ofList x.rewritten.write)] } := by
  rw [← x.write_content, ofDocument_updatePayload htarget, x.content_addTo]

/-- A box `x` that is wrapped in character data is read as an update with `x` itself. -/
theorem ofDocument_wrapped {target : String} (htarget : target ≠ "") {x : Box}
    (hplain : x.IsPlain) :
    ChangeSet.ofDocument (updatePayload target (cdataStart ++ x.write ++ cdataEnd)) =
      .ok { operations := [.update target (String.ofList x.write)] } := by
  have htext : (Wire.textContent (String.ofList x.write)).write =
      cdataStart ++ x.write ++ cdataEnd := by
    rw [Wire.textContent, Content.write, Content.write, String.toList_ofList,
      hplain.cdataText_write]
    exact List.append_nil _
  rw [← htext, ofDocument_updatePayload htarget, Wire.content_textContent _ rfl]

/-- An update with a box `y` puts the trees of `y` on the page. -/
theorem page_apply_box {σ : Type} (host : ScriptHost σ) {reserved : ReservedIds} {target : String}
    (hclass : reserved.classify target = .element) (y : Box) {page : Page}
    (hpage : page.contains target = true) (state : σ) :
    (host.document.apply reserved { operations := [.update target (String.ofList y.write)] }
      (page, state)).2.1 = page.updated target y.flow.decoded.nodes := by
  have hscripts : Html.scriptsOf (Html.parseFragment (String.ofList y.write)) = [] := by
    rw [y.parseFragment_write, y.scriptsOf_nodes]
  rw [apply_update host hclass hscripts hpage, y.parseFragment_write]

/-- The `paragraphPage` has its paragraph. -/
theorem contains_paragraphPage {target : String} (htarget : target ≠ "") :
    (paragraphPage target).contains target = true := by
  rw [Page.contains, find?_paragraphPage htarget]
  rfl

/-- **It makes no difference whether the box `x` is wrapped if it survives, and only then.** Either
    way it is read. The page that is left is the same, on whatever page the box was an update,
    exactly if each text and each value says the same when it is written out again. -/
theorem unwrapped_apply (reserved : ReservedIds) {target : String} (htarget : target ≠ "")
    (hclass : reserved.classify target = .element) {x : Box} (hplain : x.IsPlain) :
    ∃ unwrapped wrapped : ChangeSet,
      ({ reserved } : Parser).parse (updatePayload target x.write) =
        .ok ⟨unwrapped, "structured"⟩ ∧
      ({ reserved } : Parser).parse (updatePayload target (cdataStart ++ x.write ++ cdataEnd)) =
        .ok ⟨wrapped, "structured"⟩ ∧
      ((∀ (σ : Type) (host : ScriptHost σ) (page : Page) (state : σ),
          page.contains target = true →
          (host.document.apply reserved unwrapped (page, state)).2.1.html =
            (host.document.apply reserved wrapped (page, state)).2.1.html) ↔
        x.Survives) := by
  refine ⟨_, _, parse_of_ofDocument (ofDocument_unwrapped htarget x) reserved [Strategy.regions],
    parse_of_ofDocument (ofDocument_wrapped htarget hplain) reserved [Strategy.regions], ?_⟩
  rw [← Box.decoded_rewritten_iff]
  constructor
  · intro h
    -- one page is enough to tell the two boxes apart
    have hpage := contains_paragraphPage htarget
    have hhtml := h Unit (fun _ _ _ => ({}, ())) (paragraphPage target) () hpage
    rw [page_apply_box _ hclass _ hpage, page_apply_box _ hclass _ hpage] at hhtml
    exact decoded_eq_of_html htarget hhtml
  · intro h σ host page state hpage
    rw [page_apply_box _ hclass _ hpage, page_apply_box _ hclass _ hpage, h]

/-- References that mean the same in a document and on a page survive, and so does an `&` that
    begins none. -/
theorem unwrapped_references :
    let span : BoxTag := { name := "span".toList }
    let x : Box := {
      tag := { name := "div".toList, attributes := [("title".toList, "a&amp;b".toList)] }
      inner := .element { chars := "&lt;&#65;".toList } span (.text { chars := "b & c".toList })
        (.text {}) }
    ("p" ≠ "" ∧ ({} : ReservedIds).classify "p" = .element ∧ x.IsPlain) ∧
      x.write = "<div title=\"a&amp;b\">&lt;&#65;<span>b & c</span></div>".toList ∧ x.Survives ∧
      ∃ unwrapped wrapped : ChangeSet,
        ({} : Parser).parse (updatePayload "p" x.write) = .ok ⟨unwrapped, "structured"⟩ ∧
        ({} : Parser).parse (updatePayload "p" (cdataStart ++ x.write ++ cdataEnd)) =
          .ok ⟨wrapped, "structured"⟩ ∧
        ((∀ (σ : Type) (host : ScriptHost σ) (page : Page) (state : σ),
            page.contains "p" = true →
            (host.document.apply {} unwrapped (page, state)).2.1.html =
              (host.document.apply {} wrapped (page, state)).2.1.html) ↔
          x.Survives) := by
  intro span x
  have hclass : ({} : ReservedIds).classify "p" = .element := by decide
  have hplain : x.IsPlain := by decide
  exact ⟨⟨by decide, hclass, hplain⟩, rfl, by decide +kernel,
    unwrapped_apply {} (by decide) hclass hplain⟩

/-- A reference that only a page knows, `&nbsp;`, is lost when the box is not wrapped. -/
theorem unwrapped_nbsp :
    let host : ScriptHost Unit := fun _ _ _ => ({}, ())
    let page := Page.ofHtml "<div id=\"p\"></div>"
    let after (payload : String) : Option String :=
      match ({} : Parser).parse payload with
      | .ok parsed =>
        if parsed.strategy = "structured" then
          some (host.document.apply {} parsed.changes (page, ())).2.1.html
        else none
      | .error _ => none
    let markup := "<div id=\"p\">&nbsp;</div>".toList
    page.contains "p" = true ∧
      after (updatePayload "p" markup) =
        some "<html><head></head><body><div id=\"p\">&amp;nbsp;</div></body></html>" ∧
      after (updatePayload "p" (cdataStart ++ markup ++ cdataEnd)) =
        some "<html><head></head><body><div id=\"p\">&nbsp;</div></body></html>" := by
  decide +kernel

end PagePatch
