import PagePatch.Change.Operation
import PagePatch.Error
import PagePatch.Html.Node

namespace PagePatch

/-!
# Documents

What changes are applied to. A document is told what to do one instruction at a time; what it is
made of is left open.

* `Instruction` — what a document can be told to do;
* `Document` — what a document answers;
* `Action` — a number of instructions one after another, up to the first failure;
* `Document.noted` — a document that also keeps the instructions it was given.
-/

/-- What a document can be told to do, by `Document.perform`. The applier makes instructions of the
    changes of a response. -/
inductive Instruction where
  /-- Put markup in the place of the element called `id`. -/
  | replaceElement (id markup : String)
  /-- Put markup in the place of what is in the element called `id`. -/
  | replaceContent (id markup : String)
  /-- Put markup before or after the element called `anchor`. -/
  | insertAdjacent (anchor : String) (position : InsertPosition) (markup : String)
  /-- Remove the element called `id`, with all that is in it. -/
  | remove (id : String)
  /-- Set the attribute `name` of the element called `id` to `value`. -/
  | setAttribute (id name value : String)
  /-- Give the head or the body other attributes and other content. -/
  | replaceRegion (region : Html.Region) (attributes : List (String × String)) (markup : String)
  /-- Run `code`, from a script in markup or from a change of its own. -/
  | runScript (code : String)
  /-- Run the code at `address`, which a script in markup names as its source. -/
  | loadScript (address : String)
  /-- Leave for the address `url`. -/
  | navigate (url : String)
  /-- Take over the view-state token `token`, which the forms of the page will send. -/
  | updateViewState (token : String)
  deriving DecidableEq, Repr

namespace Instruction

/-- The markup that an instruction brings into the document, in which there may be scripts; `none`
    for every instruction that comes without markup. -/
def markup? : Instruction → Option String
  | replaceElement _ markup | replaceContent _ markup | insertAdjacent _ _ markup
  | replaceRegion _ _ markup => some markup
  | _ => none

/-- Whether the instruction runs code. Nothing but `runScript` and `loadScript` does, so markup that
    is put into the page runs nothing by itself. -/
def runsCode : Instruction → Bool
  | runScript _ | loadScript _ => true
  | _ => false

end Instruction

/-- What a document of states `σ` answers. An instruction ends in a failure, or tells whether there
    was something to change. -/
structure Document (σ : Type) where
  /-- Whether an element with this id is part of the document. -/
  contains : σ → String → Bool
  /-- What comes of an instruction: the answer, and the state that it leaves, also after a
      failure. -/
  perform : Instruction → σ → Except Error Bool × σ

/-- Instructions to a document one after another, up to the first failure. The state is kept below
    `ExceptT`: what came before the failure stays done. -/
abbrev Action (σ α : Type) := ExceptT Error (StateM σ) α

namespace Document

variable {σ : Type}

/-- Gives the instruction `i`, as one action. -/
def tell (d : Document σ) (i : Instruction) : Action σ Bool :=
  d.perform i

/-- Asks by `contains` for an element. It neither changes the state nor fails. -/
def asks (d : Document σ) (id : String) : Action σ Bool :=
  fun s => (.ok (d.contains s id), s)

/-- The document `d` that also keeps the instructions it was given, the last one last. The log
    changes no answer of `d`, so whatever is shown of a run with the log holds of the run without
    it. -/
def noted (d : Document σ) : Document (σ × List Instruction) where
  contains s id := d.contains s.1 id
  perform i s :=
    let (result, state) := d.perform i s.1
    (result, state, s.2 ++ [i])

end Document

end PagePatch
