import PagePatch.Html.ReferenceNames
import PagePatch.Text.Percent
import PagePatch.Text.Search

namespace PagePatch.Html

/-!
# Character references

A reference is read from the text behind its ampersand. What is no reference stays text.

* `numbered` — the character that a number stands for;
* `readReference` — the characters of a reference, and how much of the text it takes up.
-/

/-- The characters that the numbers from 128 to 159 stand for in a reference, where they differ from
    it. -/
def windowsCharacters : List (Nat × Char) :=
  [(0x80, '\u20ac'), (0x82, '\u201a'), (0x83, '\u0192'), (0x84, '\u201e'), (0x85, '\u2026'),
    (0x86, '\u2020'), (0x87, '\u2021'), (0x88, '\u02c6'), (0x89, '\u2030'), (0x8a, '\u0160'),
    (0x8b, '\u2039'), (0x8c, '\u0152'), (0x8e, '\u017d'), (0x91, '\u2018'), (0x92, '\u2019'),
    (0x93, '\u201c'), (0x94, '\u201d'), (0x95, '\u2022'), (0x96, '\u2013'), (0x97, '\u2014'),
    (0x98, '\u02dc'), (0x99, '\u2122'), (0x9a, '\u0161'), (0x9b, '\u203a'), (0x9c, '\u0153'),
    (0x9e, '\u017e'), (0x9f, '\u0178')]

/-- The character that stands in the place of one that must not occur: the null character, or a
    number of no character. -/
def replacement : Char := '\ufffd'

/-- The character that the number `n` in a reference stands for. -/
def numbered (n : Nat) : Char :=
  if n = 0 ∨ ¬ n.isValidChar then replacement
  else (windowsCharacters.lookup n).getD (Char.ofNat n)

/-- What a reference stands for, and how much of the text it takes up. -/
structure Reference where
  /-- The characters, the ampersand itself when there is no reference. -/
  characters : List Char
  /-- How many characters behind the ampersand it takes up. -/
  length : Nat
  /-- Whether it ends without its semicolon. -/
  unterminated : Bool := false
  deriving DecidableEq, Repr

/-- An ampersand that begins no reference: it stands for itself and takes up nothing behind it. -/
def Reference.ampersand : Reference where
  characters := ['&']
  length := 0

/-- A reference by a number of the given `base`, from its digits on. `taken` characters stand
    between the ampersand and `s`. -/
def readNumber (base taken : Nat) (s : List Char) : Reference :=
  let isDigit (c : Char) : Bool := (Text.hexValue? c).any (· < base)
  let digits := s.takeWhile isDigit
  if digits.isEmpty then .ampersand
  else
    let n := digits.foldl (fun n c => base * n + (Text.hexValue? c).getD 0) 0
    let semicolon := (s.drop digits.length).head? == some ';'
    { characters := [numbered n]
      length := taken + digits.length + (if semicolon then 1 else 0)
      unterminated := !semicolon }

/-- The longest of the `names` that stands in front of the text `s`, with the characters it stands
    for. -/
def longestName (s : List Char) (names : List (String × String)) : Option (String × String) :=
  names.foldl (fun best entry =>
    if Text.startsWith entry.1.toList s && best.all (·.1.length < entry.1.length) then some entry
    else best) none

/-- Where a reference stands. This decides what a name without a semicolon is; see `readName`. -/
inductive Place where
  /-- In the text of a page. -/
  | text
  /-- In an attribute value in quotes. -/
  | quoted
  /-- In an attribute value without quotes. -/
  | bare
  deriving DecidableEq, Repr

/-- How many characters two texts share at the front; how far a reader of names follows one of
    them. -/
def sharedLength : List Char → List Char → Nat
  | a :: s, b :: t => if a = b then sharedLength s t + 1 else 0
  | _, _ => 0

/-- Where a reader of names stops: where no name goes on like the text or, if there is no name
    in front of it, behind the letters and digits that follow. -/
def nameStop (found : Bool) (names : List (String × String)) (s : List Char) : Nat :=
  let shared := names.foldl (fun n entry => max n (sharedLength entry.1.toList s)) 0
  if found then shared else shared + ((s.drop shared).takeWhile Char.isAlphanum).length

/-- A reader of names takes the character it stops at. A carriage return there is lost directly
    behind the reference; behind further letters it is a line feed, whatever follows. A value
    without quotes ends at it. -/
def Reference.takeReturn (place : Place) (stop : Nat) (s : List Char) (r : Reference) :
    Reference :=
  if (s.drop stop).head? ≠ some '\r' then r
  else if stop = r.length then { r with length := r.length + 1 }
  else if place = .bare then r
  else { r with
    characters := r.characters ++ (s.take stop).drop r.length ++ ['\n'], length := stop + 1 }

/-- A name in front of the text. In an attribute value a name without a semicolon counts only
    when no equals sign, letter or digit follows. -/
def readName (place : Place) (names : List (String × String)) (s : List Char) : Reference :=
  let found := longestName s names
  (match found with
    | none => .ampersand
    | some (name, characters) =>
      let terminated := name.toList.getLast? == some ';'
      let next := (s.drop name.length).head?
      -- in the query of an address such a name is that of a parameter
      if place ≠ .text && !terminated && next.any (fun c => c == '=' || c.isAlphanum) then
        .ampersand
      else
        { characters := characters.toList, length := name.length, unterminated := !terminated }
    : Reference).takeReturn place (nameStop found.isSome names s) s

/-- Reads a reference from the text `s` behind its ampersand. What is no reference is an
    `ampersand`, and the text behind it is read on. -/
def readReference (place : Place) (s : List Char) : Reference :=
  match s with
  | '#' :: 'x' :: s => readNumber 16 2 s
  | '#' :: 'X' :: s => readNumber 16 2 s
  | '#' :: s => readNumber 10 1 s
  | c :: _ => readName place (referenceNames c) s
  | [] => .ampersand

end PagePatch.Html
