import PagePatch.Xml.Error
import PagePatch.Xml.Reference

namespace PagePatch.Xml

/-!
# Start tags

The inside of a start tag is a name and attributes. The name ends at the first space and is not
checked further; attributes are `key="value"` with either quote, spaces around `=` allowed and
none needed between two attributes.

* `tagName` — the name;
* `attributes` — the attributes in order, with the references in their values replaced.
-/

/-- Whether a character is white space of XML. -/
def isSpace (c : Char) : Bool :=
  c == ' ' || c == '\t' || c == '\r' || c == '\n'

/-- The name at the front of the `inside` of a tag, up to the first character that `isSpace`. -/
def tagName (inside : List Char) : List Char :=
  inside.takeWhile (!isSpace ·)

/-- Where the reader of attributes is. The lists of characters are in reverse order. -/
inductive AttributeMode where
  /-- Before a key, or at the end. -/
  | between
  /-- In a key that starts at the position `start`. -/
  | key (start : Nat) (read : List Char)
  /-- Behind a key, where only spaces may stand before its equals sign. -/
  | afterKey (start : Nat) (key : List Char)
  /-- Behind an equals sign, where only spaces may stand before the value. -/
  | beforeValue (key : List Char)
  /-- In a value that ends at the next `quote`. -/
  | value (key : List Char) (quote : Char) (read : List Char)
  deriving DecidableEq, Repr

/-- An equals sign ends a key, which must be new: `seen` holds the keys so far, with their
    positions. -/
def endKey (seen : List (List Char × Nat)) (start : Nat) (key : List Char) :
    Except AttributeFault AttributeMode :=
  match seen.lookup key with
  | some previous => .error (.duplicated start previous)
  | none => .ok (.beforeValue key)

/-- Reads attributes from position `pos` on; `seen` holds the keys so far. The end of the text is
    only allowed between attributes. -/
def readAttributes (mode : AttributeMode) (seen : List (List Char × Nat)) (pos : Nat) :
    List Char → Except AttributeFault (List (String × String))
  | [] =>
    match mode with
    | .between => .ok []
    | .key .. | .afterKey .. => .error (.missingEquals pos)
    | .beforeValue _ => .error (.missingValue pos)
    | .value _ quote _ => .error (.missingQuote pos quote)
  | c :: rest =>
    let next := pos + c.utf8Size
    match mode with
    | .between =>
      if isSpace c then readAttributes .between seen next rest
      else readAttributes (.key pos [c]) seen next rest
    | .key start read =>
      if c = '=' then do
        readAttributes (← endKey seen start read.reverse) ((read.reverse, start) :: seen) next rest
      else if isSpace c then readAttributes (.afterKey start read.reverse) seen next rest
      else readAttributes (.key start (c :: read)) seen next rest
    | .afterKey start key =>
      if isSpace c then readAttributes (.afterKey start key) seen next rest
      else if c = '=' then do
        readAttributes (← endKey seen start key) ((key, start) :: seen) next rest
      else .error (.missingEquals pos)
    | .beforeValue key =>
      if isSpace c then readAttributes (.beforeValue key) seen next rest
      else if c = '"' ∨ c = '\'' then readAttributes (.value key c []) seen next rest
      else .error (.unquotedValue pos)
    | .value key quote read =>
      if c = quote then do
        let others ← readAttributes .between seen next rest
        -- the references in a value are replaced here
        pure ((String.ofList key, String.ofList (unescapeOrRaw read.reverse)) :: others)
      else readAttributes (.value key quote (c :: read)) seen next rest

/-- The attributes in the `inside` of a tag, behind its name. -/
def attributes (inside : List Char) : Except AttributeFault (List (String × String)) :=
  readAttributes .between [] (Text.byteLength (tagName inside)) (inside.dropWhile (!isSpace ·))

end PagePatch.Xml
