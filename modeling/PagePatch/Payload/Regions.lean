import PagePatch.Change.Operation
import PagePatch.Change.Target
import PagePatch.Payload.Fault
import PagePatch.Text.Blank
import PagePatch.Text.Search

namespace PagePatch

/-!
# Region updates in broken payloads

A payload whose markup is not well formed still tells what to do with the head, the body or the
whole page. `update` nodes are looked for in the raw text; those of other targets, and all other
operations, are lost.

* `updateNode?` — an update node at the front of a text;
* `updateNodes` — the update nodes of a text, from left to right, not overlapping;
* `ChangeSet.ofRegions` — the region updates of a payload.
-/

/-- The start tag of an update node at the front of `s`: its id and the text behind the tag. Blanks
    are passed over, but one has to stand behind `<update`; the two quotes need not be the same. -/
def updateStart? (s : List Char) : Option (List Char × List Char) := do
  let s ← Text.dropPrefix? "<update".toList s
  let spaced := s.dropWhile Text.isBlank
  if spaced.length = s.length then none
  let s ← Text.dropPrefix? "id".toList spaced
  let s ← Text.dropPrefix? ['='] (s.dropWhile Text.isBlank)
  -- an id may have neither quote in it, whichever one it stands in
  let isQuote (c : Char) : Bool := c == '"' || c == '\''
  match s.dropWhile Text.isBlank with
  | [] => none
  | q :: s =>
    let id := s.takeWhile (!isQuote ·)
    let s := s.dropWhile (!isQuote ·)
    if !isQuote q || id.isEmpty || s.isEmpty then none
    let s ← Text.dropPrefix? ['>'] ((s.drop 1).dropWhile Text.isBlank)
    pure (id, s)

/-- The text behind an end tag `</update>` that stands at the front of `s`; blanks may stand in
    front of the `>`. -/
def updateEnd? (s : List Char) : Option (List Char) := do
  let s ← Text.dropPrefix? "</update".toList s
  Text.dropPrefix? ['>'] (s.dropWhile Text.isBlank)

/-- The text before the first end tag that `updateEnd?` finds, and the text behind this tag. What
    stands in between is not looked at, be it another start tag. -/
def untilUpdateEnd : List Char → Option (List Char × List Char)
  | [] => none
  | c :: rest =>
    match updateEnd? (c :: rest) with
    | some behind => some ([], behind)
    | none => (untilUpdateEnd rest).map fun (inner, behind) => (c :: inner, behind)

/-- An update node at the front of `s`: its id, its content and the text behind it, by
    `updateStart?` and `untilUpdateEnd`. -/
def updateNode? (s : List Char) : Option (List Char × List Char × List Char) := do
  let (id, s) ← updateStart? s
  let (inner, behind) ← untilUpdateEnd s
  pure (id, inner, behind)

/-- The update nodes of a text, as ids and contents; `skip` counts the characters of the last node
    that are still to be passed, so that nodes do not overlap. -/
def updateNodesFrom (skip : Nat) : List Char → List (List Char × List Char)
  | [] => []
  | c :: rest =>
    match skip with
    | skip + 1 => updateNodesFrom skip rest
    | 0 =>
      match updateNode? (c :: rest) with
      | some (id, inner, behind) =>
        (id, inner) :: updateNodesFrom (rest.length - behind.length) rest
      | none => updateNodesFrom 0 rest

/-- The update nodes of the text `s`, as ids and contents, from left to right. -/
def updateNodes (s : List Char) : List (List Char × List Char) :=
  updateNodesFrom 0 s

/-- Drops the marks around character data, whatever they belong to. A section that was split in
    front of a `]]>` is whole again afterwards. -/
def dropCdataMarks (s : List Char) : List Char :=
  Text.removeAll "]]>".toList (Text.removeAll "<![CDATA[".toList s)

/-- Whether a target is the head, the body or the whole page. `ChangeSet.ofRegions` keeps no other
    updates. -/
def UpdateTarget.isRegion : UpdateTarget → Bool
  | head | body | root => true
  | _ => false

/-- The region updates among the `updateNodes` of a payload, in order. There has to be one at
    least. -/
def ChangeSet.ofRegions (reserved : ReservedIds) (raw : String) :
    Except PayloadFault ChangeSet :=
  let updates := (updateNodes raw.toList).filter fun (id, _) =>
    (reserved.classify (String.ofList id)).isRegion
  if updates.isEmpty then .error .noRegion
  else
    .ok { operations := updates.map fun (id, inner) =>
      Operation.update (String.ofList id) (String.ofList (dropCdataMarks inner)) }

end PagePatch
