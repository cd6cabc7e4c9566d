import PagePatch.Html.Lexer.Char
import PagePatch.Html.Token

namespace PagePatch.Html

/-!
# Reading tags

A tag is a name and attributes. It is read character by character; what a character does depends
on where in the tag it stands.

* `TagMode` and `TagState` — where the reader is;
* `tagStep` — what a character does;
* `readAttributes` — the attributes of a tag, from the text behind its name;
* `readNamedTag` — a tag, from the text behind its `<` or `</`.
-/

/-- Where the reader of a tag's attributes is. The lists of characters in it are in reverse order,
    since `tagStep` adds at their front. -/
inductive TagMode where
  /-- Between attributes. -/
  | between
  /-- Behind a slash. -/
  | slash
  /-- In a name. -/
  | name (read : List Char)
  /-- Behind a name. -/
  | afterName (name : List Char)
  /-- Behind an equals sign. `afterReturn` tells that the last character was a carriage return. -/
  | beforeValue (name : List Char) (afterReturn : Bool)
  /-- In a value in quotes. -/
  | quoted (name : List Char) (quote : Char) (read : List Char)
  /-- In a value without quotes. -/
  | bare (name read : List Char)
  /-- Behind a value in quotes. -/
  | afterQuoted
  deriving DecidableEq, Repr

/-- Where the reader of a tag is behind a character: what `tagStep` yields. -/
structure TagState where
  /-- The attributes so far. -/
  attributes : List Attribute
  /-- The mode. -/
  mode : TagMode
  /-- How many of the next characters are used up. -/
  skip : Nat := 0
  deriving DecidableEq, Repr

/-- Adds the attribute of the reversed texts `name` and `value`, unless its name occurred before in
    the tag. -/
def addAttribute (as : List Attribute) (name value : List Char) : List Attribute :=
  let name := String.ofList name.reverse
  if as.any (·.name == name) then as
  else as ++ [{ name, value := String.ofList value.reverse }]

/-- The mode behind the character `c`, which stands where an attribute may begin. -/
def beginAttribute (c : Char) : TagMode :=
  if isSpace c then .between else if c = '/' then .slash else .name [nameChar c]

/-- What a character `c` behind the attribute name `name` does to the attributes and the mode; it is
    not `>`. -/
def afterNameStep (as : List Attribute) (name : List Char) (c : Char) : TagState :=
  if isSpace c then ⟨as, .afterName name, 0⟩
  else if c = '/' then ⟨addAttribute as name [], .slash, 0⟩
  else if c = '=' then ⟨as, .beforeValue name false, 0⟩
  else ⟨addAttribute as name [], .name [nameChar c], 0⟩

/-- What a character `c` in a value in quotes does. `read` is the value so far, in reverse order;
    `rest` tells how far a reference goes. -/
def quotedStep (as : List Attribute) (name : List Char) (quote : Char) (read : List Char)
    (c : Char) (rest : List Char) : TagState :=
  if c = quote then ⟨addAttribute as name read, .afterQuoted, 0⟩
  else if c = '&' then
    let r := readReference .quoted rest
    ⟨as, .quoted name quote (r.characters.reverse ++ read), r.length⟩
  else if c = '\r' then
    ⟨as, .quoted name quote ('\n' :: read), if rest.head? = some '\n' then 1 else 0⟩
  else ⟨as, .quoted name quote (literal c :: read), 0⟩

/-- What a character `c` in a value without quotes does; it is not `>`. `read` is the value so far,
    in reverse order. -/
def bareStep (as : List Attribute) (name read : List Char) (c : Char) (rest : List Char) :
    TagState :=
  if isSpace c then ⟨addAttribute as name read, .between, 0⟩
  else if c = '&' then
    let r := readReference .bare rest
    ⟨as, .bare name (r.characters.reverse ++ read), r.length⟩
  else ⟨as, .bare name (literal c :: read), 0⟩

/-- What a character in front of a value does; it is not `>`. The second half of a line end takes
    the character behind it along. -/
def beforeValueStep (as : List Attribute) (name : List Char) (afterReturn : Bool) (c : Char)
    (rest : List Char) : TagState :=
  if c = '\n' ∧ afterReturn then ⟨as, .beforeValue name (rest.head? == some '\r'), 1⟩
  else if isSpace c then ⟨as, .beforeValue name (c == '\r'), 0⟩
  else if c = '"' ∨ c = '\'' then ⟨as, .quoted name c [], 0⟩
  else bareStep as name [] c rest

/-- What a character other than a closing `>` does, given the text behind it. -/
def tagStep (as : List Attribute) (mode : TagMode) (c : Char) (rest : List Char) : TagState :=
  match mode with
  | .between | .slash | .afterQuoted => ⟨as, beginAttribute c, 0⟩
  | .name read =>
    if isSpace c || c == '/' || c == '=' then afterNameStep as read c
    else ⟨as, .name (nameChar c :: read), 0⟩
  | .afterName name => afterNameStep as name c
  | .beforeValue name afterReturn => beforeValueStep as name afterReturn c rest
  | .quoted name quote read => quotedStep as name quote read c rest
  | .bare name read => bareStep as name read c rest

/-- The attributes when a `>` is met in the given mode, and whether the tag ends in a slash; nothing
    in a mode where `>` does not close it. -/
def closeTag (as : List Attribute) : TagMode → Option (List Attribute × Bool)
  | .between | .afterQuoted => some (as, false)
  | .slash => some (as, true)
  | .name name | .afterName name | .beforeValue name _ => some (addAttribute as name [], false)
  | .bare name read => some (addAttribute as name read, false)
  | .quoted .. => none

/-- Reads the attributes of a tag up to its end: the attributes, whether it ends in a slash, and the
    rest. The next `skip` characters are used up already. A tag that does not end is nothing. -/
def readTag (as : List Attribute) (mode : TagMode) (skip : Nat) :
    List Char → Option (List Attribute × Bool × List Char)
  | [] => none
  | c :: rest =>
    match skip with
    | skip + 1 => readTag as mode skip rest
    | 0 =>
      -- in a quoted value `closeTag` refuses, so that `>` is a character like any other
      match if c = '>' then closeTag as mode else none with
      | some (as, slash) => some (as, slash, rest)
      | none =>
        let next := tagStep as mode c rest
        readTag next.attributes next.mode next.skip rest

/-- The attributes of a tag from the text `s` behind its name, whether it ends in a slash, and the
    rest behind it. -/
def readAttributes (s : List Char) : Option (List Attribute × Bool × List Char) :=
  readTag [] .between 0 s

/-- Reads a tag from its name on: the tag and the rest behind its `>`. -/
def readNamedTag (s : List Char) : Option (Tag × List Char) :=
  let isEnd (c : Char) : Bool := isSpace c || c == '/' || c == '>'
  let name := s.takeWhile (!isEnd ·)
  (readAttributes (s.dropWhile (!isEnd ·))).map fun (attributes, selfClosing, rest) =>
    ({ name := String.ofList (name.map nameChar), attributes, selfClosing }, rest)

end PagePatch.Html
