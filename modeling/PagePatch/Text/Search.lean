namespace PagePatch.Text

/-!
# Searching in text

* `startsWith` and `dropPrefix?` — a text at the front of another;
* `removeAll` — a text without the occurrences of another;
* `dropPrefixNoCase?` — a text at the front of another in any case of ASCII letters;
* `splitFirst` and `splitAt` — the parts of a text before and behind the first occurrence of a
  character, and between all occurrences.
-/

/-- The rest of the text `s` behind the pattern that stands at its front; `none` where it does
    not. -/
def dropPrefix? : List Char → List Char → Option (List Char)
  | [], s => some s
  | _ :: _, [] => none
  | p :: pattern, c :: s => if p = c then dropPrefix? pattern s else none

/-- Whether the `pattern` stands at the front of `s`. -/
def startsWith (pattern s : List Char) : Bool :=
  (dropPrefix? pattern s).isSome

/-- Drops every occurrence of `pattern`, from left to right; `skip` counts the characters of the
    current occurrence that are still to be dropped, so that occurrences do not overlap. -/
def removeFrom (pattern : List Char) (skip : Nat) : List Char → List Char
  | [] => []
  | c :: rest =>
    match skip with
    | skip + 1 => removeFrom pattern skip rest
    | 0 =>
      if startsWith pattern (c :: rest) then removeFrom pattern (pattern.length - 1) rest
      else c :: removeFrom pattern 0 rest

/-- Drops every occurrence of a `pattern` that is not empty. -/
def removeAll (pattern s : List Char) : List Char :=
  removeFrom pattern 0 s

/-- The rest of the text `s` behind the pattern that stands at its front, in any case of ASCII
    letters; see `dropPrefix?`. -/
def dropPrefixNoCase? : List Char → List Char → Option (List Char)
  | [], s => some s
  | _ :: _, [] => none
  | p :: pattern, c :: s =>
    if p.toLower = c.toLower then dropPrefixNoCase? pattern s else none

/-- Splits the text `s` at the first `sep`; the second part is absent when there is none. -/
def splitFirst (sep : Char) (s : List Char) : List Char × Option (List Char) :=
  match s.dropWhile (· != sep) with
  | [] => (s, none)
  | _ :: rest => (s.takeWhile (· != sep), some rest)

/-- Splits a text at every `sep`. There is always one part at least, which may be empty. -/
def splitAt (sep : Char) : List Char → List (List Char)
  | [] => [[]]
  | c :: rest =>
    if c == sep then [] :: splitAt sep rest
    else
      match splitAt sep rest with
      | [] => [[c]]
      | part :: parts => (c :: part) :: parts

end PagePatch.Text
