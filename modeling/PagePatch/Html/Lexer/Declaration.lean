import PagePatch.Html.Lexer.Char
import PagePatch.Html.Token
import PagePatch.Text.Search

namespace PagePatch.Html

/-!
# Reading comments and declarations

* `readComment` and `bogusComment` — the two kinds of comments;
* `readDoctype` — a document type declaration;
* `untilCdataEnd` — a character data section.
-/

/-- Where the reader of a comment is: what stands before it decides what a dash, `!` or `>`
    means. -/
inductive CommentMode where
  /-- At its start. -/
  | start
  /-- Behind a dash at its start. -/
  | startDash
  /-- In its text. -/
  | body
  /-- Behind one dash. -/
  | dash
  /-- Behind two dashes. -/
  | dashes
  /-- Behind two dashes and an exclamation mark. -/
  | bang
  deriving DecidableEq, Repr

/-- Reads a comment behind its opening: its text and the rest behind its end. `read` is the text so
    far, in reverse order; dashes that may belong to the end are kept in `mode`. -/
def readComment (mode : CommentMode) (read : List Char) : List Char → List Char × List Char
  | [] => (read.reverse, [])
  | c :: rest =>
    match mode, c with
    | .start, '-' => readComment .startDash read rest
    | .start, '>' => (read.reverse, rest)
    | .startDash, '-' => readComment .dashes read rest
    | .startDash, '>' => (read.reverse, rest)
    | .startDash, c => readComment .body (c :: '-' :: read) rest
    | .start, '<' | .body, '<' => readComment .body ('<' :: read) rest
    | .body, '-' => readComment .dash read rest
    | .start, c | .body, c => readComment .body (c :: read) rest
    | .dash, '-' => readComment .dashes read rest
    | .dash, c => readComment .body (c :: '-' :: read) rest
    | .dashes, '>' => (read.reverse, rest)
    | .dashes, '!' => readComment .bang read rest
    | .dashes, '-' => readComment .dashes ('-' :: read) rest
    | .dashes, c => readComment .body (c :: '-' :: '-' :: read) rest
    | .bang, '-' => readComment .dash ('!' :: '-' :: '-' :: read) rest
    | .bang, '>' => (read.reverse, rest)
    | .bang, c => readComment .body (c :: '!' :: '-' :: '-' :: read) rest

/-- A comment of what is no proper declaration; it ends at the first `>`. -/
def bogusComment (s : List Char) : Token × List Char :=
  (.comment (literalText (s.takeWhile (· ≠ '>'))), (s.dropWhile (· ≠ '>')).drop 1)

/-- Reads an identifier up to its `quote`: the identifier, whether the quote was reached, and the
    rest behind it. A `>` ends a broken one. -/
def readIdentifier (quote : Char) (s : List Char) : String × Bool × List Char :=
  let isEnd (c : Char) : Bool := c == quote || c == '>'
  let rest := s.dropWhile (!isEnd ·)
  (literalText (s.takeWhile (!isEnd ·)), rest.head? == some quote, rest.drop 1)

/-- The rest behind the `>` of a declaration, for a declaration whose remaining text does not
    matter. -/
def skipDeclaration (s : List Char) : List Char :=
  (s.dropWhile (· ≠ '>')).drop 1

/-- Reads a declaration behind an identifier or keyword: `d` with the system identifier, if any, and
    the rest behind the `>`. `required` tells that one has to follow. -/
def readSystemId (d : Doctype) (required : Bool) (s : List Char) : Doctype × List Char :=
  match s.dropWhile isSpace with
  | [] => ({ d with broken := true }, [])
  | c :: rest =>
    if c = '>' then ({ d with broken := d.broken || required }, rest)
    else if c = '"' ∨ c = '\'' then
      let (id, closed, rest) := readIdentifier c rest
      let d := { d with systemId := some id }
      if !closed then ({ d with broken := true }, rest)
      else
        match rest.dropWhile isSpace with
        | [] => ({ d with broken := true }, [])
        | rest => (d, skipDeclaration rest)
    else ({ d with broken := true }, skipDeclaration rest)

/-- Reads a declaration behind `PUBLIC`: `d` with the public identifier and what `readSystemId`
    finds behind it. -/
def readPublicId (d : Doctype) (s : List Char) : Doctype × List Char :=
  match s.dropWhile isSpace with
  | [] => ({ d with broken := true }, [])
  | c :: rest =>
    if c = '"' ∨ c = '\'' then
      let (id, closed, rest) := readIdentifier c rest
      let d := { d with publicId := some id }
      if closed then readSystemId d false rest else ({ d with broken := true }, rest)
    else if c = '>' then ({ d with broken := true }, rest)
    else ({ d with broken := true }, skipDeclaration rest)

/-- Reads a document type declaration behind its name. `PUBLIC` and `SYSTEM` are not looked for at
    the next `blind` characters: a line end of two characters hides the one behind it. -/
def readKeyword (d : Doctype) (blind : Nat) : List Char → Doctype × List Char
  | [] => ({ d with broken := true }, [])
  | c :: rest =>
    let keyword? (word : String) : Option (List Char) :=
      if blind = 0 then Text.dropPrefixNoCase? word.toList (c :: rest) else none
    match keyword? "public", keyword? "system" with
    | some s, _ => readPublicId d s
    | none, some s => readSystemId d true s
    | none, none =>
      if isSpace c then
        readKeyword d (if c = '\r' ∧ rest.head? = some '\n' then 2 else blind - 1) rest
      else if c = '>' then (d, rest)
      else ({ d with broken := true }, skipDeclaration rest)

/-- Reads a declaration behind its keyword `DOCTYPE`: the name, then what `readKeyword` finds behind
    it. -/
def readDoctype (s : List Char) : Doctype × List Char :=
  let s := s.dropWhile isSpace
  let isEnd (c : Char) : Bool := isSpace c || c == '>'
  let name := s.takeWhile (!isEnd ·)
  if name.isEmpty then ({ broken := true }, s.drop 1)
  else
    let d : Doctype := { name := some (String.ofList (name.map nameChar)) }
    readKeyword d 0 (s.dropWhile (!isEnd ·))

/-- Splits the text at the first end of a character data section; without one the section goes on to
    the end. -/
def untilCdataEnd : List Char → List Char × List Char
  | [] => ([], [])
  | c :: rest =>
    match Text.dropPrefix? "]]>".toList (c :: rest) with
    | some behind => ([], behind)
    | none =>
      let (inner, behind) := untilCdataEnd rest
      (c :: inner, behind)

end PagePatch.Html
