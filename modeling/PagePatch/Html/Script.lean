import PagePatch.Html.Node
import PagePatch.Text.Blank
import PagePatch.Text.Search

namespace PagePatch.Html

/-!
# Scripts in markup

* `Script` — a script, by its code or by its address;
* `scriptsOf` — the scripts of a list of trees that are to be run, in document order;
* `soleId?` — the id of a tree that stands alone.
-/

/-- A script in markup, as it is handed to the host: by its code or by its address. -/
inductive Script where
  /-- The code itself. -/
  | inline (code : String)
  /-- The address of the code. -/
  | external (address : String)
  deriving DecidableEq, Repr

/-- The types of scripts that are run, in lower case. A script without a type counts as one of the
    empty type. -/
def scriptTypes : List String :=
  ["", "text/javascript", "application/javascript", "text/ecmascript",
   "application/ecmascript", "module"]

/-- Whether scripts of the type `type` are run. Blanks around it and the case of its letters do not
    matter. -/
def isScriptType (type : String) : Bool :=
  scriptTypes.contains (String.ofList ((Text.trimChars type.toList).map Char.toLower))

/-- The text between `opening` at the start of `s` and `closing` at its end; nothing if one of them
    is missing. -/
def between? (opening closing s : List Char) : Option (List Char) := do
  let s ← Text.dropPrefix? opening s
  let s ← Text.dropPrefix? closing.reverse s.reverse
  pure s.reverse

/-- The code without a comment or character data section around the whole of it. Around a part of it
    they stay. -/
def unwrapCode (code : String) : String :=
  let trimmed := Text.trimChars code.toList
  match between? "<!--".toList "-->".toList trimmed with
  | some inner => String.ofList inner
  | none =>
    match between? "<![CDATA[".toList "]]>".toList trimmed with
    | some inner => String.ofList inner
    | none => code

/-- The script that the element `e` is, if it is one that is run. One with an address has no code of
    its own. -/
def script? (e : Element) (children : List Node) : Option Script :=
  if e.name ≠ "script" || !isScriptType ((e.attribute? "type").getD "") then none
  else
    let address := ((e.attribute? "src").map Text.trim).getD ""
    if address ≠ "" then some (.external address)
    else
      let code := unwrapCode (Node.textContentOf children)
      if Text.isBlankText code then none else some (.inline code)

/-- The scripts of the trees `nodes` that are to be run, in document order. They are found before
    anything is run. -/
def scriptsOf (nodes : List Node) : List Script :=
  (Node.elementsOf nodes).filterMap fun (e, children) => script? e children

/-- Whether a node counts as content: an element, or a text that is not blank. `soleId?` looks past
    everything else. -/
def Node.isContent : Node → Bool
  | element .. => true
  | text s => !Text.isBlankText s
  | comment _ | doctype _ => false

/-- The id of the one element among `nodes`, if all else there does not count as content. -/
def soleId? (nodes : List Node) : Option String :=
  match nodes.filter Node.isContent with
  | [.element e _] => e.id?
  | _ => none

end PagePatch.Html
