import PagePatch.Change.Target
import PagePatch.Listener
import PagePatch.Request.Ids
import PagePatch.Text.Percent
import PagePatch.Url.Basic

namespace PagePatch

/-!
# Requests

* `RequestOptions` — what a caller may say about a request;
* `Request.build` — the request that is sent;
* `Request.formFields` — its form fields in order, and `Request.formBody` their encoding.
-/

/-- What a caller may say about a request. Whatever is absent gets its default in
    `Request.build`. -/
structure RequestOptions where
  /-- The ids to execute, as words; the source alone when absent. -/
  execute : Option String := none
  /-- The ids to render, as words; none when absent. -/
  render : Option String := none
  /-- How long to wait for further requests of the same source, in milliseconds. -/
  delay : Option Nat := none
  /-- The deadline in milliseconds; zero is none, and that of the settings counts when absent. -/
  timeout : Option Nat := none
  /-- A new bound on the number of waiting requests. -/
  queueSize : Option Nat := none
  /-- Ask for submitted values to be reset. -/
  resetValues : Bool := false
  /-- The id of the enclosing form. -/
  form : Option String := none
  /-- Further form fields, in the order in which they are sent. -/
  params : List (String × String) := []
  /-- The listeners of this request. -/
  callbacks : Callbacks := {}
  deriving DecidableEq, Repr

/-- A request as it is sent. Unless its caller gave it a token, `withViewState` puts one in when it
    comes into flight. -/
structure Request where
  /-- Its id. -/
  id : RequestId
  /-- Where it is sent. -/
  url : Url
  /-- The element that triggered it. -/
  source : String
  /-- The event that triggered it. -/
  event : Option String
  /-- The ids to execute, without keywords but for `@all`. -/
  execute : List String
  /-- The ids to render. -/
  render : List String
  /-- The view-state token, if the request has one of its own or was given one. -/
  viewState : Option String
  /-- Ask for submitted values to be reset. -/
  resetValues : Bool
  /-- Further form fields. -/
  params : List (String × String)
  /-- The deadline in milliseconds; zero is none. -/
  timeout : Nat
  deriving DecidableEq, Repr

namespace Request

/-- The headers of every request, by which the server knows it as a partial one. The body is the
    `formBody`. -/
def headers : List (String × String) :=
  [("Faces-Request", "partial/ajax"),
    ("Content-Type", "application/x-www-form-urlencoded;charset=UTF-8")]

/-- The request that a caller's `options` stand for. The first parameter named `viewStateField` is
    the token, and no parameter of that name is passed through. -/
def build (id : RequestId) (url : Url) (source : String) (event : Option String)
    (options : RequestOptions) (defaultTimeout : Nat) : Request where
  id := id
  url := url
  source := source
  event := event
  execute := resolveIds (options.execute.getD "@this") source options.form
  render := resolveIds (options.render.getD "@none") source options.form
  viewState := options.params.lookup viewStateField
  resetValues := options.resetValues
  params := options.params.filter (·.1 ≠ viewStateField)
  timeout := options.timeout.getD defaultTimeout

/-- Gives the request a `token` if it has none of its own. -/
def withViewState (r : Request) (token : Option String) : Request :=
  { r with viewState := r.viewState.or token }

/-- A field called `name` with a list of ids, separated by spaces; an empty list is not sent. -/
def idField (name : String) (ids : List String) : List (String × String) :=
  if ids.isEmpty then [] else [(name, " ".intercalate ids)]

/-- The form fields in the order in which they are sent: those of the protocol, and then the
    caller's. -/
def formFields (r : Request) : List (String × String) :=
  [("javax.faces.source", r.source)] ++
    (r.event.toList.flatMap fun e =>
      [("javax.faces.partial.event", e), ("javax.faces.behavior.event", e)]) ++
    idField "javax.faces.partial.execute" r.execute ++
    idField "javax.faces.partial.render" r.render ++
    [("javax.faces.partial.ajax", "true")] ++
    (if r.resetValues then [("javax.faces.partial.resetValues", "true")] else []) ++
    (r.viewState.toList.map fun token => (viewStateField, token)) ++
    r.params

/-- One encoded form field: name and value, each by `Text.percentEncode`, around an equals sign. -/
def encodeField (field : String × String) : String :=
  Text.percentEncode field.1 ++ "=" ++ Text.percentEncode field.2

/-- The body of the request: the `formFields`, each by `encodeField`, joined by ampersands. -/
def formBody (r : Request) : String :=
  "&".intercalate (r.formFields.map encodeField)

end Request

end PagePatch
