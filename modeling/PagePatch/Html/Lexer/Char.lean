import PagePatch.Html.Reference

namespace PagePatch.Html

/-!
# Characters as they are read

* `readChar` and `normalizeNewlines` — every line end is read as one line feed;
* `isSpace` — the white space of HTML;
* `literalText` and `nameChar` — text and names without null characters.
-/

/-- The character `c` as it is read, and the text behind it: a carriage return is a line feed, and
    the line feed behind it, if any, belongs to it. -/
def readChar (c : Char) (rest : List Char) : Char × List Char :=
  if c = '\r' then ('\n', if rest.head? = some '\n' then rest.drop 1 else rest) else (c, rest)

/-- The text with every line end as one line feed, for text that is taken as a whole and not by
    `readChar`. -/
def normalizeNewlines : List Char → List Char
  | [] => []
  | c :: rest =>
    if c = '\r' then
      if rest.head? = some '\n' then normalizeNewlines rest else '\n' :: normalizeNewlines rest
    else c :: normalizeNewlines rest

/-- Whether `c` is white space of HTML. This differs from `Text.isBlank`, which knows blanks of
    other scripts. -/
def isSpace (c : Char) : Bool :=
  c == ' ' || c == '\t' || c == '\n' || c == '\x0c' || c == '\r'

/-- The character `c` where references are not read: the null character is replaced, everything else
    stands for itself. -/
def literal (c : Char) : Char :=
  if c = '\x00' then replacement else c

/-- The text of a comment or an identifier, where no references are read: `literal` of each
    character, with one kind of line end. -/
def literalText (s : List Char) : String :=
  String.ofList ((normalizeNewlines s).map literal)

/-- A character of the name of a tag, an attribute or a declaration, in lower case and never
    null. -/
def nameChar (c : Char) : Char :=
  if c = '\x00' then replacement else c.toLower

end PagePatch.Html
