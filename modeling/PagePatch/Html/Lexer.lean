import PagePatch.Html.Lexer.Declaration
import PagePatch.Html.Lexer.Tag

namespace PagePatch.Html

/-!
# Lexer

Cuts the text of a page into tokens. How text is cut depends on the element it stands in, so the
lexer is told its mode.

* `LexMode` — the modes;
* `Lexed` — some tokens, the mode behind them and the rest of the text;
* `lex` — the next tokens of a text.
-/

/-- How text is cut. The rules of tree building set it for the content of an element, by
    `Builder.openText`. -/
inductive LexMode where
  /-- Text with tags and references. -/
  | data
  /-- Text with references that ends at the end tag of its element. -/
  | rcdata
  /-- Text that ends at the end tag of its element. -/
  | rawtext
  /-- A script. -/
  | script
  /-- A script inside a comment, behind up to two dashes. -/
  | escaped (dashes : Nat)
  /-- A script inside a script element inside a comment, behind up to two dashes. -/
  | doubleEscaped (dashes : Nat)
  /-- Text to the end. -/
  | plaintext
  deriving DecidableEq, Repr

/-- Some tokens, the mode behind them and the rest of the text: what one call of `lex` gives. -/
structure Lexed where
  /-- The tokens. -/
  tokens : List Token
  /-- The mode behind them. -/
  mode : LexMode
  /-- The rest. -/
  rest : List Char
  deriving DecidableEq, Repr

/-- The characters `s` as tokens, one for each. -/
def charTokens (s : List Char) : List Token :=
  s.map .char

/-- The characters of a reference, from the text `s` behind its ampersand. A `fault` in front of
    them tells that the semicolon is missing. -/
def lexReference (mode : LexMode) (s : List Char) : Lexed :=
  let r := readReference .text s
  ⟨(if r.unterminated then [.fault] else []) ++ charTokens r.characters, mode, s.drop r.length⟩

/-- An end tag for the element that the text stands in, from the text `s` behind `</`; nothing for
    another tag, which is text there. -/
def lexOwnEnd (element : String) (s : List Char) : Option Lexed :=
  let name := s.takeWhile Char.isAlpha
  let rest := s.dropWhile Char.isAlpha
  let ends := rest.head?.any fun c => isSpace c || c == '/' || c == '>'
  if !name.isEmpty && name.map Char.toLower == element.toList && ends then
    match readAttributes rest with
    | some (attributes, selfClosing, rest) =>
      some ⟨[.endTag { name := element, attributes, selfClosing }], .data, rest⟩
    -- a tag that is cut short is lost with the rest of the text
    | none => some ⟨[], .data, []⟩
  else none

/-- Text that ends at the end tag of `element`, from the character `c` on. -/
def lexRaw (mode : LexMode) (element : String) (c : Char) (rest : List Char) : Lexed :=
  match c, rest with
  | '<', '/' :: s => (lexOwnEnd element s).getD ⟨charTokens ['<', '/'], mode, s⟩
  | _, _ => ⟨[.char (literal c)], mode, rest⟩

/-- A word behind `<` or `</` in a commented script. When it ends as a tag name does, the mode is
    `inside` if the word is `script` and `outside` if not. -/
def lexScriptWord (opening : List Char) (inside outside : LexMode) (s : List Char) : Lexed :=
  let word := s.takeWhile Char.isAlpha
  match s.dropWhile Char.isAlpha with
  | c :: rest =>
    if isSpace c || c == '/' || c == '>' then
      let mode := if word.map Char.toLower == "script".toList then inside else outside
      let (c, rest) := readChar c rest
      ⟨charTokens (opening ++ word ++ [literal c]), mode, rest⟩
    else ⟨charTokens (opening ++ word), outside, c :: rest⟩
  | [] => ⟨charTokens (opening ++ word), outside, []⟩

/-- The code of a script, from the character `c` on. `<!--` in it begins a comment. -/
def lexScript (element : String) (c : Char) (rest : List Char) : Lexed :=
  match c, rest with
  | '<', '!' :: '-' :: '-' :: s => ⟨charTokens ['<', '!', '-', '-'], .escaped 2, s⟩
  | _, _ => lexRaw .script element c rest

/-- A script in a comment, from the character `c` on. `dashes` counts those in front of it, two of
    which make a `>` the end of the comment. -/
def lexEscaped (element : String) (dashes : Nat) (c : Char) (rest : List Char) : Lexed :=
  match c, rest with
  | '-', _ => ⟨[.char '-'], .escaped (min 2 (dashes + 1)), rest⟩
  | '<', '/' :: s => (lexOwnEnd element s).getD ⟨charTokens ['<', '/'], .escaped 0, s⟩
  | '<', l :: _ =>
    if l.isAlpha then lexScriptWord ['<'] (.doubleEscaped 0) (.escaped 0) rest
    else ⟨[.char '<'], .escaped 0, rest⟩
  | '>', _ => ⟨[.char '>'], if dashes = 2 then .script else .escaped 0, rest⟩
  | _, _ => ⟨[.char (literal c)], .escaped 0, rest⟩

/-- A script element in a commented script, from the character `c` on; its end tag ends only itself,
    not the script. -/
def lexDoubleEscaped (dashes : Nat) (c : Char) (rest : List Char) : Lexed :=
  match c, rest with
  | '-', _ => ⟨[.char '-'], .doubleEscaped (min 2 (dashes + 1)), rest⟩
  | '<', '/' :: s => lexScriptWord ['<', '/'] (.escaped 0) (.doubleEscaped 0) s
  | '>', _ => ⟨[.char '>'], if dashes = 2 then .script else .doubleEscaped 0, rest⟩
  | _, _ => ⟨[.char (literal c)], .doubleEscaped 0, rest⟩

/-- What stands behind `<!`: a comment, a declaration or character data. The last is known outside
    the HTML vocabulary (`foreign`) only. -/
def lexDeclaration (foreign : Bool) (s : List Char) : Lexed :=
  match Text.dropPrefix? "--".toList s with
  | some s =>
    let (text, rest) := readComment .start [] s
    ⟨[.comment (literalText text)], .data, rest⟩
  | none =>
    match Text.dropPrefixNoCase? "doctype".toList s with
    | some s =>
      let (d, rest) := readDoctype s
      ⟨[.doctype d], .data, rest⟩
    | none =>
      match foreign, Text.dropPrefix? "[CDATA[".toList s with
      | true, some s =>
        let (inner, rest) := untilCdataEnd s
        ⟨charTokens (normalizeNewlines inner), .data, rest⟩
      | _, _ =>
        let (token, rest) := bogusComment s
        ⟨[token], .data, rest⟩

/-- Markup, from the text `s` behind `<`. A tag that does not end takes the rest of the text
    along. -/
def lexMarkup (foreign : Bool) (s : List Char) : Lexed :=
  match s with
  | '!' :: s => lexDeclaration foreign s
  | '?' :: _ =>
    let (token, rest) := bogusComment s
    ⟨[token], .data, rest⟩
  | '/' :: c :: rest =>
    if c.isAlpha then
      match readNamedTag (c :: rest) with
      | some (tag, rest) => ⟨[.endTag tag], .data, rest⟩
      | none => ⟨[], .data, []⟩
    else if c = '>' then ⟨[.fault], .data, rest⟩
    else
      let (token, rest) := bogusComment (c :: rest)
      ⟨[token], .data, rest⟩
  | ['/'] => ⟨charTokens ['<', '/'], .data, []⟩
  | c :: _ =>
    if c.isAlpha then
      match readNamedTag s with
      | some (tag, rest) => ⟨[.startTag tag], .data, rest⟩
      | none => ⟨[], .data, []⟩
    else ⟨[.char '<'], .data, s⟩
  | [] => ⟨[.char '<'], .data, []⟩

/-- The next tokens of a text that is not empty. `element` is the name of the last start tag and
    `foreign` tells that the innermost open element is outside the HTML vocabulary. -/
def lex (mode : LexMode) (element : String) (foreign : Bool) (c : Char) (rest : List Char) :
    Lexed :=
  -- a line end may take up two characters
  let (c, rest) := readChar c rest
  match mode with
  | .data =>
    if c = '<' then lexMarkup foreign rest
    else if c = '&' then lexReference .data rest
    else ⟨[.char c], .data, rest⟩
  | .rcdata => if c = '&' then lexReference .rcdata rest else lexRaw .rcdata element c rest
  | .rawtext => lexRaw .rawtext element c rest
  | .script => lexScript element c rest
  | .escaped dashes => lexEscaped element dashes c rest
  | .doubleEscaped dashes => lexDoubleEscaped dashes c rest
  | .plaintext => ⟨[.char (literal c)], .plaintext, rest⟩

end PagePatch.Html
