import PagePatch.Text.Blank
import PagePatch.Xml.Attribute

namespace PagePatch.Xml

/-!
# Scanning

A document is cut into tags, texts and character data by reading it once, character by
character. A tag ends at the first `>` outside quotes. Comments, processing instructions and
document type declarations are recognised anywhere and dropped.

* `Event` — a piece of a document that the tree is made of;
* `Events` — the pieces in order, up to the end or the first fault;
* `scan` — cuts a document into its events.
-/

/-- A piece of a document that its tree is made of; `Reading.step` takes one in. -/
inductive Event where
  /-- A start tag, given by its inside. -/
  | start (inside : List Char)
  /-- A tag that is closed at once, given by its inside without the slash. -/
  | empty (inside : List Char)
  /-- An end tag, by its name and the position of its `<`. -/
  | finish (name : List Char) (pos : Nat)
  /-- Text, as it is written, with its references. -/
  | text (raw : List Char)
  /-- Character data, without the marks around it. -/
  | cdata (raw : List Char)
  deriving DecidableEq, Repr

/-- The pieces of a document in order, up to its end (`done`) or its first fault (`failed`). -/
inductive Events where
  | done
  | failed (fault : Fault)
  | more (event : Event) (rest : Events)
  deriving DecidableEq, Repr

/-- Where the scanner is in a document. The lists of characters `read` are in reverse order. -/
inductive Mode where
  /-- In text. -/
  | text (read : List Char)
  /-- Behind a `<`. -/
  | opened
  /-- In a start tag, inside a quoted value if `quote` is given. -/
  | tag (quote : Option Char) (read : List Char)
  /-- In an end tag, with quotes as in a start tag. -/
  | closing (quote : Option Char) (read : List Char)
  /-- In a processing instruction. -/
  | instruction (read : List Char)
  /-- Behind `<!`. -/
  | bang
  /-- Behind `<!-`. -/
  | commentOpen
  /-- In a comment, behind its opening. -/
  | comment (read : List Char)
  /-- In the opening of character data, of which `left` is still to come. -/
  | cdataOpen (left : List Char)
  /-- In character data. -/
  | cdata (read : List Char)
  /-- In a document type declaration with `depth` open brackets. -/
  | doctype (depth : Nat) (read : List Char)
  deriving DecidableEq, Repr

/-- The quote that is open behind a character `c` of a tag, if one is open. -/
def quoteAfter (quote : Option Char) (c : Char) : Option Char :=
  match quote with
  | none => if c = '"' ∨ c = '\'' then some c else none
  | some q => if c = q then none else some q

/-- The event of a start tag, whose inside is given in reverse order by `read`; a slash at its end
    closes it at once. -/
def tagEvent (read : List Char) : Event :=
  match read with
  | '/' :: inside => .empty inside.reverse
  | inside => .start inside.reverse

/-- The name in an end tag without the spaces behind it; a name of spaces alone is kept. `read` is
    in reverse order, so these spaces stand at its front. -/
def endName (read : List Char) : List Char :=
  let name := (read.dropWhile isSpace).reverse
  if name.isEmpty then read.reverse else name

/-- Whether a document type declaration begins with its keyword, in any case, and whether a name
    follows. -/
def doctypeCheck (inside : List Char) : Bool × Bool :=
  ((inside.take 7).map Char.toLower == "doctype".toList, (inside.drop 7).any (!isSpace ·))

/-- What the character `c` does: a fault, or the next mode and the event that it completes. `start`
    is the position of the last `<` and `pos` that of the character. -/
def step (mode : Mode) (start pos : Nat) (c : Char) : Except Fault (Mode × Option Event) :=
  match mode with
  | .text read =>
    if c = '<' then .ok (.opened, if read.isEmpty then none else some (.text read.reverse))
    else .ok (.text (c :: read), none)
  | .opened =>
    if c = '!' then .ok (.bang, none)
    else if c = '/' then .ok (.closing none [], none)
    else if c = '?' then .ok (.instruction [], none)
    else if c = '>' then .ok (.text [], some (tagEvent []))
    else .ok (.tag (quoteAfter none c) [c], none)
  | .tag quote read =>
    if c = '>' ∧ quote = none then .ok (.text [], some (tagEvent read))
    else .ok (.tag (quoteAfter quote c) (c :: read), none)
  | .closing quote read =>
    if c = '>' ∧ quote = none then .ok (.text [], some (.finish (endName read) start))
    else .ok (.closing (quoteAfter quote c) (c :: read), none)
  | .instruction read =>
    if c = '>' then
      match read with
      | [] => .error (.unclosed .instruction start)
      | '?' :: _ => .ok (.text [], none)
      | _ => .ok (.instruction (c :: read), none)
    else .ok (.instruction (c :: read), none)
  | .bang =>
    if c = '[' then .ok (.cdataOpen "CDATA[".toList, none)
    else if c = '-' then .ok (.commentOpen, none)
    else if c = 'D' ∨ c = 'd' then .ok (.doctype 0 [c], none)
    else .error (.unknownMarkup start)
  | .commentOpen =>
    if c = '-' then .ok (.comment [], none) else .error (.unclosed .comment start)
  | .comment read =>
    -- two hyphens in a comment do no harm unless a `>` follows them
    match c, read with
    | '>', '-' :: '-' :: _ => .ok (.text [], none)
    | _, _ => .ok (.comment (c :: read), none)
  | .cdataOpen left =>
    match left with
    | [l] => if c = l then .ok (.cdata [], none) else .error (.unclosed .cdata start)
    | l :: left => if c = l then .ok (.cdataOpen left, none) else .error (.unclosed .cdata start)
    | [] => .ok (.cdata [c], none)
  | .cdata read =>
    match c, read with
    | '>', ']' :: ']' :: inside => .ok (.text [], some (.cdata inside.reverse))
    | _, _ => .ok (.cdata (c :: read), none)
  | .doctype depth read =>
    if c = '<' then .ok (.doctype (depth + 1) (c :: read), none)
    else if c = '>' then
      match depth with
      | depth + 1 => .ok (.doctype depth (c :: read), none)
      | 0 =>
        match doctypeCheck read.reverse with
        | (false, _) => .error (.unclosed .doctype start)
        | (true, false) => .error (.unnamedDoctype pos)
        | (true, true) => .ok (.text [], none)
    else .ok (.doctype depth (c :: read), none)

/-- What the end of the document leaves in the given `mode`: its last text, or markup that is not
    closed, with `start` for the fault. -/
def ending (mode : Mode) (start : Nat) : Events :=
  match mode with
  | .text read => if read.isEmpty then .done else .more (.text read.reverse) .done
  | .opened | .tag .. | .closing .. => .failed (.unclosed .tag start)
  | .instruction _ => .failed (.unclosed .instruction start)
  | .bang => .failed (.unknownMarkup start)
  | .commentOpen | .comment _ => .failed (.unclosed .comment start)
  | .cdataOpen _ | .cdata _ => .failed (.unclosed .cdata start)
  | .doctype .. => .failed (.unclosed .doctype start)

/-- Scans a text from position `pos` on; `start` is the position of the last `<`. -/
def scanFrom (mode : Mode) (start pos : Nat) : List Char → Events
  | [] => ending mode start
  | c :: rest =>
    match step mode start pos c with
    | .error fault => .failed fault
    | .ok (next, event) =>
      let start := match mode with
        | .text _ => pos
        | _ => start
      match event with
      | none => scanFrom next start (pos + c.utf8Size) rest
      | some event => .more event (scanFrom next start (pos + c.utf8Size) rest)

/-- The events of the document `s`. A byte order mark at its front is dropped and not counted. -/
def scan (s : List Char) : Events :=
  match s with
  | '\ufeff' :: rest => scanFrom (.text []) 0 0 rest
  | s => scanFrom (.text []) 0 0 s

end PagePatch.Xml
