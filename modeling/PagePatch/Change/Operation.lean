namespace PagePatch

/-!
# Change-sets

What a partial response asks to be done to the page.

* `Operation` — one change;
* `ChangeSet` — the changes of one response, in order, with at most one error report.
-/

/-- On which side of its anchor an insert goes; `Operation.insert` carries one beside the id of the
    anchor. -/
inductive InsertPosition where
  | before
  | after
  deriving DecidableEq, Repr

/-- The word for a position, by which the attribute (`shortAnchor`) and the child (`longAnchor`) of
    an insert element are named. -/
def InsertPosition.name : InsertPosition → String
  | before => "before"
  | after => "after"

/-- One change that a response asks for. A `ChangeSet` holds its operations in the order in which
    they are written, and `Document.applyAll` goes through them in that order. -/
inductive Operation where
  /-- Replace an element or its content; reserved targets stand for whole regions or for the
      token. -/
  | update (target markup : String)
  /-- Insert markup next to an anchor; `id` names the new element when the response does. -/
  | insert (id : Option String) (position : InsertPosition) (anchor markup : String)
  /-- Remove the element with the id `target`. -/
  | delete (target : String)
  /-- Set the attribute `name` of the element with the id `target`. -/
  | setAttribute (target name value : String)
  /-- Run `code` as a script. -/
  | eval (code : String)
  /-- Leave the page for the address `url`, after which nothing more is done. -/
  | redirect (url : String)
  /-- The server reports a failure. Nothing else in the response counts then. -/
  | error (name message : String)
  deriving DecidableEq, Repr

namespace Operation

/-- The word for the kind of an operation, as partial responses name it; that of `setAttribute` is
    the word for the node it stands in. -/
def kind : Operation → String
  | update .. => "update"
  | insert .. => "insert"
  | delete .. => "delete"
  | setAttribute .. => "attributes"
  | eval .. => "eval"
  | redirect .. => "redirect"
  | error .. => "error"

/-- Whether an operation changes the page itself, apart from its token. Code that an `eval` runs may
    change the page, too, but that is the doing of the code. -/
def mutatesDocument : Operation → Bool
  | update .. | insert .. | delete .. | setAttribute .. => true
  | _ => false

/-- The name and the message of an operation `error`; `none` for every other one. `ChangeSet.error?`
    looks for the first report among the operations. -/
def errorReport? : Operation → Option (String × String)
  | error name message => some (name, message)
  | _ => none

end Operation

/-- The changes of one response. They are put in by `push`, so that there is one report among them
    at most. -/
structure ChangeSet where
  /-- The id that the response gives itself. -/
  responseId : Option String := none
  /-- The changes in the order of the response. -/
  operations : List Operation := []
  deriving DecidableEq, Repr

namespace ChangeSet

/-- The first report of a failure among the changes, by name and message. If there is one,
    `Document.apply` applies none of the operations. -/
def error? (changes : ChangeSet) : Option (String × String) :=
  changes.operations.findSome? Operation.errorReport?

/-- Appends the operation `op`. A second report is dropped, and everything else is kept. -/
def push (changes : ChangeSet) (op : Operation) : ChangeSet :=
  if op.errorReport?.isSome && changes.error?.isSome then changes
  else { changes with operations := changes.operations ++ [op] }

/-- The change-set of a list of operations, put in by `push` one after the other. -/
def ofList (ops : List Operation) : ChangeSet :=
  ops.foldl push {}

end ChangeSet

end PagePatch
