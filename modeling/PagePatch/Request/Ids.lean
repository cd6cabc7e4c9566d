import PagePatch.Text.Blank

namespace PagePatch.Request

/-!
# Identifier lists

The ids to execute and to render are written as words, some of which are keywords:
`@none` empties the list, `@all` takes its place, `@this` is the source of the request and
`@form` the enclosing form, if there is one.

* `resolveIds` — the ids that a list stands for, without repetitions.
-/

/-- The id that one `word` stands for. Without an enclosing form, `@form` stands for none. -/
def expandId (source : String) (form : Option String) (word : String) : Option String :=
  if word = "@this" then some source
  else if word = "@form" then form
  else some word

/-- Keeps the first occurrence of every id; `seen` holds the ids that were kept so far. -/
def distinctFrom (seen : List String) : List String → List String
  | [] => []
  | id :: rest =>
    if id ∈ seen then distinctFrom seen rest else id :: distinctFrom (id :: seen) rest

/-- The ids that the list `raw` stands for, without repetitions. One `@none` in it empties the list,
    and else one `@all` takes its place. -/
def resolveIds (raw source : String) (form : Option String) : List String :=
  let words := Text.words raw
  if "@none" ∈ words then []
  else if "@all" ∈ words then ["@all"]
  else distinctFrom [] (words.filterMap (expandId source form))

end PagePatch.Request
