import PagePatch.Text.Search
import PagePatch.Url.Basic
import PagePatch.Url.Encoding

namespace PagePatch.Url

open Text (splitAt)

/-!
# Path segments

* `Way.follow` — the way from the root of a path that its segments lead;
* `segmentsOf` — the segments of a path outside file addresses;
* `fileSegments` — the segments of a path in a file address, and whether they name a drive.

A segment of one or two dots stands for this or the parent directory. A segment that looks like a
drive letter has no parent directory.
-/

/-! ### Kinds of segments -/

/-- Whether a segment stands for the current directory. -/
def isSingleDot (s : List Char) : Bool :=
  let s := s.map Char.toLower
  s == ".".toList || s == "%2e".toList

/-- Whether a segment stands for the parent directory. -/
def isDoubleDot (s : List Char) : Bool :=
  let s := s.map Char.toLower
  s == "..".toList || s == ".%2e".toList || s == "%2e.".toList || s == "%2e%2e".toList

/-- Whether a segment is a drive letter: one letter and a colon or bar. -/
def isDrive : List Char → Bool
  | [letter, mark] => letter.isAlpha && (mark == ':' || mark == '|')
  | _ => false

/-- Whether a segment begins with a drive letter that has nothing behind it, or a backslash. -/
def isDriveLike (s : List Char) : Bool :=
  isDrive (s.take 2) && (s.drop 2).head?.all (· == '\\')

/-! ### Ways from the root -/

/-- A way from the root of a path, as `Way.follow` goes it segment by segment. -/
structure Way where
  /-- The segments passed, the last one first. -/
  passed : List (List Char) := []
  /-- Whether the way began at a drive. -/
  drive : Bool := false
  deriving DecidableEq, Repr

/-- The way `w` one segment further, whose characters are encoded. -/
def Way.down (w : Way) (part : List Char) : Way :=
  { w with passed := Text.percentEncodeWith keptInPath part :: w.passed }

/-- The way to the parent directory. The root has none, and a segment that `isDriveLike` has none
    either. -/
def Way.up (w : Way) : Way :=
  if w.passed.head?.any isDriveLike then w else { w with passed := w.passed.drop 1 }

/-- The way one segment further in a file address. At the root a drive letter gets its colon, and
    one with its colon does not need a slash behind it. -/
def Way.downFile (w : Way) (part : List Char) : Way :=
  if !w.passed.isEmpty then w.down part
  else if isDrive part then { passed := [part.take 1 ++ [':']], drive := true }
  else if isDrive (part.take 2) && (part.drop 1).head? == some ':' then
    (w.down (part.take 2)).down (part.drop 2)
  else w.down part

/-- Follows segments, the last of which is where the way ends. A way that ends in dots
    (`isSingleDot`, `isDoubleDot`) ends in an empty segment. -/
def Way.follow (file : Bool) (w : Way) : List (List Char) → Way
  | [] => w
  | part :: rest =>
    if isDoubleDot part || isSingleDot part then
      -- dots at the end still lead to a directory, so the way goes on to an empty segment
      let w := if isDoubleDot part then w.up else w
      Way.follow file (if rest.isEmpty then w.down [] else w) rest
    else Way.follow file (if file then w.downFile part else w.down part) rest

/-- The segments of a way, in the order of the path. -/
def Way.segments (w : Way) : List String :=
  w.passed.reverse.map String.ofList

/-- The text `s` with slashes for backslashes. -/
def slashed (s : List Char) : List Char :=
  s.map fun c => if c == '\\' then '/' else c

/-- The segments of a path outside file addresses; special schemes read a backslash as a slash and
    have at least one segment. -/
def segmentsOf (special : Bool) (s : List Char) : List String :=
  let s := if special then slashed s else s
  match s with
  | [] => if special then [""] else []
  | '/' :: rest => (Way.follow false {} (splitAt '/' rest)).segments
  | s => (Way.follow false {} (splitAt '/' s)).segments

/-- The segments of a path in a file address, from the text behind its first slash, without empty
    ones at the front; and whether they begin with a drive that stands in the place of a host. -/
def fileSegments (s : List Char) : List String × Bool :=
  let w := Way.follow true {} (splitAt '/' (slashed s))
  let segments := w.segments.dropWhile (· == "")
  (if segments.isEmpty then [""] else segments, w.drive)

end PagePatch.Url
