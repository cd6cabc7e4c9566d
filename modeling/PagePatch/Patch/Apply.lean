import PagePatch.Change.Operation
import PagePatch.Change.Target
import PagePatch.Document.Basic
import PagePatch.Html.Script
import PagePatch.Html.Section
import PagePatch.Patch.Outcome

namespace PagePatch

/-!
# Applying changes

* `Document.apply` — applies the changes of a response, in order;
* `Document.applyOne` — applies one change.

A missing target of an update or an attribute is passed over, a missing anchor of an insert is a
failure, and a missing target of a removal is nothing. A redirect ends the changes. The scripts in
markup run once, right after the markup is in the document. A response that reports a failure of
the server changes nothing.
-/

namespace Document

variable {σ : Type}

/-- Runs a script: an inline one by its code, an external one by its address. -/
def runScript (d : Document σ) : Html.Script → Action σ Unit
  | .inline code => discard (d.tell (.runScript code))
  | .external address => discard (d.tell (.loadScript address))

/-- Runs scripts in order, up to the first on which `runScript` fails. -/
def runScripts (d : Document σ) : List Html.Script → Action σ Unit
  | [] => pure ()
  | s :: rest => do
    d.runScript s
    d.runScripts rest

/-- Runs the scripts in a piece of markup, in the order in which `Html.scriptsOf` finds them in its
    trees. -/
def runMarkup (d : Document σ) (markup : String) : Action σ Unit :=
  d.runScripts (Html.scriptsOf (Html.parseFragment markup))

/-- The section of `region` in `markup`; markup without one is the content of the region itself. -/
def sectionOf (region : Html.Region) (markup : String) : Html.Section :=
  (Html.section? region markup).getD { inner := markup }

/-- Gives a region the attributes and the content of the section `s`, and then runs the scripts in
    it. -/
def replaceRegion (d : Document σ) (region : Html.Region) (s : Html.Section) :
    Action σ Unit := do
  discard (d.tell (.replaceRegion region s.attributes s.inner))
  d.runMarkup s.inner

/-- Updates the whole page by the two sections of `markup`. Markup without a head leaves the head as
    it is; markup with a head and no body leaves the body as it is. -/
def updateRoot (d : Document σ) (markup : String) : Action σ Unit := do
  let head := Html.section? .head markup
  if let some s := head then
    d.replaceRegion .head s
  -- markup with neither section is the content of the body
  if head.isNone || (Html.section? .body markup).isSome then
    d.replaceRegion .body (sectionOf .body markup)

/-- Updates the element `target`, if `d.contains` it. Markup that is this element again, and no
    other beside it, takes its place; other markup takes the place of what is in it. -/
def updateElement (d : Document σ) (target markup : String) : Action σ Outcome := do
  if ← d.asks target then
    let fragment := Html.parseFragment markup
    -- markup that is the element again, and nothing else beside it
    if Html.soleId? fragment = some target then
      discard (d.tell (.replaceElement target markup))
    else
      discard (d.tell (.replaceContent target markup))
    d.runScripts (Html.scriptsOf fragment)
    pure .done
  else
    pure (.skip (.elementNotFound target))

/-- Applies an update. What it is about is decided by `reserved.classify target`: a region, the
    whole page, the token, or an element. -/
def applyUpdate (d : Document σ) (reserved : ReservedIds) (target markup : String) :
    Action σ Outcome :=
  match reserved.classify target with
  | .viewState => do
    -- blanks around a token are no part of it
    let token := Text.trim markup
    discard (d.tell (.updateViewState token))
    pure { applied := 1, viewState := some token }
  | .head => do
    d.replaceRegion .head (sectionOf .head markup)
    pure .done
  | .body => do
    d.replaceRegion .body (sectionOf .body markup)
    pure .done
  | .root => do
    d.updateRoot markup
    pure .done
  | .element => d.updateElement target markup

/-- Gives an instruction about an element, and returns the failure if it `isRecoverable`, that is,
    if the element is missing. Any other failure ends the changes. -/
def tellElement (d : Document σ) (i : Instruction) : Action σ (Option Error) := fun s =>
  match d.perform i s with
  | (.ok _, s) => (.ok none, s)
  | (.error e, s) => if e.isRecoverable then (.ok (some e), s) else (.error e, s)

/-- Applies an insert. Without its anchor there is no place for the markup, so the changes end: the
    failure that `tellElement` returned is thrown again. -/
def applyInsert (d : Document σ) (id : Option String) (position : InsertPosition)
    (anchor markup : String) : Action σ Outcome := do
  match ← d.tellElement (.insertAdjacent anchor position markup) with
  | some _ => throw (.anchorNotFound anchor (id.getD "insert"))
  | none =>
    d.runMarkup markup
    pure .done

/-- Applies a change of an attribute, which is skipped if the element is missing. -/
def applyAttribute (d : Document σ) (target name value : String) : Action σ Outcome := do
  match ← d.tellElement (.setAttribute target name value) with
  | some e => pure (.skip e)
  | none => pure .done

/-- Applies one change, and tells by an `Outcome` what came of it. Every `Operation` has its case
    here. -/
def applyOne (d : Document σ) (reserved : ReservedIds) : Operation → Action σ Outcome
  | .update target markup => d.applyUpdate reserved target markup
  | .insert id position anchor markup => d.applyInsert id position anchor markup
  | .delete target => do
    if ← d.tell (.remove target) then pure .done else pure {}
  | .setAttribute target name value => d.applyAttribute target name value
  | .eval code => do
    discard (d.tell (.runScript code))
    pure .done
  | .redirect url => do
    discard (d.tell (.navigate url))
    pure { applied := 1, redirect := some url }
  | .error .. => pure {}

/-- Applies changes in order, up to the first failure or redirect, and joins what came of them by
    `Outcome.append`. What was done by then stays done. -/
def applyAll (d : Document σ) (reserved : ReservedIds) : List Operation → Action σ Outcome
  | [] => pure {}
  | op :: rest => do
    let outcome ← d.applyOne reserved op
    if outcome.redirect.isSome then pure outcome
    else
      let others ← d.applyAll reserved rest
      pure (outcome ++ others)

/-- Applies the changes of a response, unless `changes.error?` finds the report of a failure among
    them: then none is applied. -/
def apply (d : Document σ) (reserved : ReservedIds) (changes : ChangeSet) : Action σ Outcome :=
  match changes.error? with
  | some report => pure { serverError := some report }
  | none => d.applyAll reserved changes.operations

end Document

end PagePatch
