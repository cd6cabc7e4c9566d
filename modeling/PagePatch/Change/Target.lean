namespace PagePatch

/-!
# Update targets

Some target ids stand for a whole region of the page or for the view-state token.

* `viewStateField` — the form field of the token;
* `ReservedIds` — these ids, which an application may rename;
* `ReservedIds.classify` — what an update of a target means.
-/

/-- The name of the form field that carries the view-state token, in `Request.formFields` as well as
    on the page (`Page.withToken`). `ReservedIds` may rename the update target of the token, but not
    this field. -/
def viewStateField : String := "javax.faces.ViewState"

/-- What an update is about: a region of the page, the whole page, the token, or one element.
    `ReservedIds.classify` decides which of them an id means. -/
inductive UpdateTarget where
  | head
  | body
  | root
  | viewState
  | element
  deriving DecidableEq, Repr

/-- The ids with a meaning of their own. An application may rename any of them. -/
structure ReservedIds where
  /-- Stands for the head of the page. -/
  head : String := "javax.faces.ViewHead"
  /-- Stands for the body of the page. -/
  body : String := "javax.faces.ViewBody"
  /-- Stands for the whole page. -/
  root : String := "javax.faces.ViewRoot"
  /-- Carries a new view-state token. -/
  viewState : String := "javax.faces.ViewState"
  deriving DecidableEq, Repr

/-- Cuts an id into its segments at every colon. There is always one at least, which may be empty:
    `idSegments []` is `[[]]`. -/
def idSegments : List Char → List (List Char)
  | [] => [[]]
  | c :: rest =>
    if c = ':' then [] :: idSegments rest
    else
      match idSegments rest with
      | [] => [[c]]
      | segment :: segments => (c :: segment) :: segments

/-- What an update of `target` means. The region ids match as a whole and come first; the view-state
    id also matches as one of the `idSegments` of a longer id. The target is cut into segments even
    where it is `reserved.viewState` itself. -/
def ReservedIds.classify (reserved : ReservedIds) (target : String) : UpdateTarget :=
  if target = reserved.head then .head
  else if target = reserved.body then .body
  else if target = reserved.root then .root
  else if reserved.viewState.toList ∈ idSegments target.toList then .viewState
  else .element

end PagePatch
