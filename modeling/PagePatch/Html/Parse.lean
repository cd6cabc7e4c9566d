import PagePatch.Html.Legacy
import PagePatch.Html.Rules.Foreign
import PagePatch.Html.Rules.Page
import PagePatch.Html.Rules.Select

namespace PagePatch.Html

/-!
# Parsing

* `parsePage` — the trees of a whole page;
* `parseFragment` — the trees of a piece of a page, read as the content of a template.

Every text has a tree: what is faulty is repaired.
-/

namespace Builder

/-- Reads the token `t` by the rules for HTML that are in force. -/
def byMode (b : Builder) (t : Token) : Outcome :=
  match b.mode with
  | .initial => Rules.initial b t
  | .beforeHtml => Rules.beforeHtml b t
  | .beforeHead => Rules.beforeHead b t
  | .inHead => Rules.inHead b t
  | .afterHead => Rules.afterHead b t
  | .inBody => Rules.inBody b t
  | .text => Rules.text b t
  | .inTable => Rules.inTable b t
  | .inTableText => Rules.inTableText b t
  | .inCaption => Rules.inCaption b t
  | .inColumnGroup => Rules.inColumnGroup b t
  | .inTableBody => Rules.inTableBody b t
  | .inRow => Rules.inRow b t
  | .inCell => Rules.inCell b t
  | .inSelect => Rules.inSelect b t
  | .inSelectInTable => Rules.inSelectInTable b t
  | .inTemplate => Rules.inTemplate b t
  | .afterBody => Rules.afterBody b t
  | .inFrameset => Rules.inFrameset b t
  | .afterFrameset => Rules.afterFrameset b t
  | .afterAfterBody => Rules.afterAfterBody b t
  | .afterAfterFrameset => Rules.afterAfterFrameset b t

/-- Reads the token `t` by the rules in force: those for other vocabularies inside `svg` and `math`,
    and else those of `mode`. -/
def step (b : Builder) (t : Token) : Outcome :=
  if Rules.isForeign b t then
    match t with
    | .char c => .taken (Rules.charInForeign b c)
    | .comment s => .taken (b.insertComment s)
    | .startTag tag => Rules.startInForeign b tag
    | .endTag tag =>
      match Rules.endInForeign? b tag with
      | some b => .taken b
      | none => b.byMode t
    | .doctype _ | .fault | .ending => .taken b
  else b.byMode t

/-- Reads the token `t` by one set of rules after the other until it is taken, up to a number of
    times. -/
def steps (t : Token) : Nat → Builder → Builder
  | 0, b => b
  | n + 1, b =>
    match b.step t with
    | .taken b => b
    | .left b => steps t n b

/-- Reads a document type declaration, which counts at the start only. It goes on the page
    itself. -/
def readDoctype (b : Builder) (d : Doctype) : Builder :=
  if b.mode = .initial then
    let (b, n) := b.create (.doctype (d.name.getD ""))
    { b.put (.last page) n with legacy := d.isLegacy, mode := .beforeHtml }
  else b

/-- How often a token may be left, for `steps`. A set of rules leaves a token to others after it has
    ended an element or gone on in the outline of the page, so the number of open elements is a
    bound. -/
def patience (b : Builder) : Nat :=
  4 * b.opened.length + 32

/-- Reads the token `t`. What the token before asked of the next one is forgotten: the line feed
    that a `pre` drops, and a change of lexing. -/
def read (b : Builder) (t : Token) : Builder :=
  let skip := b.skipNewline
  let b := { b with skipNewline := false, lexing := none }
  match t with
  | .fault => b
  | .doctype d => b.readDoctype d
  | .char '\n' => if skip then b else steps (.char '\n') b.patience b
  | t => steps t b.patience b

/-- Whether a token ends the script that is being read; `readText` starts anew behind it. -/
def endsScript (b : Builder) : Token → Bool
  | .endTag t => b.mode = .text && t.name == "script"
  | _ => false

/-- Drops a byte order mark in front of a text; it is no character of the page. -/
def dropMark : List Char → List Char
  | '\uFEFF' :: rest => rest
  | s => s

/-- Reads a text, up to a number of tokens. `element` is the name of the last start tag, whose end
    tag ends text that is not `.data`. Behind a script the text starts anew, with a byte order mark
    of its own. -/
def readText : Nat → LexMode → String → Builder → List Char → Builder
  | 0, _, _, b, _ | _, _, _, b, [] => b.read .ending
  | n + 1, mode, element, b, c :: rest =>
    let l := lex mode element b.inForeign c rest
    let rest := if l.tokens.any b.endsScript then dropMark l.rest else l.rest
    let b := l.tokens.foldl read b
    -- the rules for the tag just read may ask for another way to cut what follows
    let mode := if l.tokens.isEmpty then l.mode else b.lexing.getD l.mode
    let element :=
      match l.tokens with
      | [.startTag t] => t.name
      | _ => element
    readText n mode element b rest

/-- Reads the whole text `s`. Each call of `lex` takes a character, so that the length bounds the
    number of calls. -/
def readAll (b : Builder) (s : String) : Builder :=
  let cs := dropMark s.toList
  readText cs.length .data "" b cs

end Builder

/-- The trees of the page `s`: a declaration and comments, if any, and an `html` element with a head
    and a body or frameset. -/
def parsePage (s : String) : List Node :=
  let b : Builder := { store := (({} : Store).create .root).1 }
  (b.readAll s).store.children Builder.page

/-- The trees of the piece `s` of a page. It is read below an `html` element that is no part of the
    result, as a template's content is. -/
def parseFragment (s : String) : List Node :=
  let b : Builder := {
    store := (({} : Store).create .root).1
    fragment := true
    templateModes := [.inTemplate] }
  let b := (b.openRoot { name := "html" }).resetMode
  match Builder.outermost? b with
  | some root => (b.readAll s).store.children root.slot
  | none => []

end PagePatch.Html
