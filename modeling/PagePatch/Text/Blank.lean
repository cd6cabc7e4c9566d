namespace PagePatch.Text

/-!
# Blank characters

The white space that ids, markup and payloads are trimmed of and split at: every
character with the Unicode property `White_Space`.

* `isBlank` — the character class;
* `trim` — a text without the blanks at its two ends;
* `words` — the maximal runs of characters that are not blank, in order.
-/

/-- Whether a character has the property `White_Space`. -/
def isBlank (c : Char) : Bool :=
  ('\t' ≤ c && c ≤ '\r') || c == ' ' || c == '\u0085' || c == '\u00a0' || c == '\u1680' ||
    ('\u2000' ≤ c && c ≤ '\u200a') || c == '\u2028' || c == '\u2029' || c == '\u202f' ||
    c == '\u205f' || c == '\u3000'

/-- The characters `s` without the blanks at their end. -/
def trimEnd (s : List Char) : List Char :=
  (s.reverse.dropWhile isBlank).reverse

/-- The characters `s` without the blanks at both of their ends. -/
def trimChars (s : List Char) : List Char :=
  trimEnd (s.dropWhile isBlank)

/-- The text `s` without the blanks at both of its ends. -/
def trim (s : String) : String :=
  String.ofList (trimChars s.toList)

/-- Whether a text consists of characters that are `isBlank` alone, as the empty text does. -/
def isBlankText (s : String) : Bool :=
  s.toList.all isBlank

/-- Splits off words; the first argument `word` holds the characters of the open word in reverse
    order. -/
def splitWords : List Char → List Char → List (List Char)
  | word, [] => if word.isEmpty then [] else [word.reverse]
  | word, c :: rest =>
    if isBlank c then
      if word.isEmpty then splitWords [] rest else word.reverse :: splitWords [] rest
    else splitWords (c :: word) rest

/-- The words of the text `s`: its maximal runs of characters that are not `isBlank`, in order. -/
def words (s : String) : List String :=
  (splitWords [] s.toList).map String.ofList

end PagePatch.Text
