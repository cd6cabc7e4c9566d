import PagePatch.Document.Basic

namespace PagePatch

/-!
# Recording documents

A document without content, which keeps what it was told. It stands in for a real one where the
instructions are of interest.

* `Recorder` — its state;
* `Recorder.document` — what it answers.
-/

/-- The state of a recording document: what it pretends to hold (`present`), how it is to fail
    (`fails`), and what it was told. -/
structure Recorder where
  /-- The ids of its elements, which only removals change. -/
  present : List String := []
  /-- The failure that an instruction comes to, if it is to come to one. -/
  fails : Instruction → Option Error := fun _ => none
  /-- Whether it takes no notice of addresses of code and of tokens, as a document with nothing but
      the necessary would. -/
  minimal : Bool := false
  /-- What it was told, the last one last. -/
  told : List Instruction := []

namespace Recorder

/-- The state with the instruction `i` noted. -/
def note (r : Recorder) (i : Instruction) : Recorder :=
  { r with told := r.told ++ [i] }

/-- The outcome of an instruction that needs the element called `id`. -/
def need (r : Recorder) (id : String) : Except Error Bool :=
  if r.present.contains id then .ok true else .error (.elementNotFound id)

/-- What comes of the instruction `i`. A removal cannot fail, and neither can a token. -/
def perform (i : Instruction) (r : Recorder) : Except Error Bool × Recorder :=
  match i with
  | .remove id =>
    (.ok (r.present.contains id), { r.note i with present := r.present.filter (· ≠ id) })
  | .updateViewState _ => (.ok true, if r.minimal then r else r.note i)
  | .loadScript _ =>
    if r.minimal then (.ok true, r)
    else
      match r.fails i with
      | some e => (.error e, r.note i)
      | none => (.ok true, r.note i)
  | _ =>
    match r.fails i, i with
    | some e, _ => (.error e, r.note i)
    | none, .replaceElement id _ | none, .replaceContent id _ | none, .insertAdjacent id _ _
    | none, .setAttribute id _ _ => (r.need id, r.note i)
    | none, _ => (.ok true, r.note i)

/-- The recording document. It answers by `present` and by `fails`; a `minimal` one does not note
    every instruction. -/
def document : Document Recorder where
  contains r id := r.present.contains id
  perform := perform

end Recorder

end PagePatch
