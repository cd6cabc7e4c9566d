import PagePatch.Text.Percent
import PagePatch.Text.Search

namespace PagePatch.Text

/-!
# Tables of characters

A property of characters is given by a table of ranges, each with the numbers that belong to it.
A table is written as text: `41-5A:61` is the range from 41 to 5A with the number 61 in
hexadecimal digits, `100-12E/2:101` one of every second character, `DF:73,73` a character with two
numbers, and blanks stand between the entries.

* `CodeTable.Entry` — a range of characters and its numbers;
* `CodeTable.read` — the table that some lines of text stand for;
* `CodeTable.find?`, `CodeTable.contains`, `CodeTable.value?` — what a table says of a character.
-/

/-- The range of characters from `first` to `last`, and the numbers that belong to each of them. -/
structure CodeTable.Entry where
  /-- The first character. -/
  first : Nat
  /-- The last character. -/
  last : Nat
  /-- The distance from one character of the range to the next. -/
  step : Nat
  /-- The numbers that belong to the range. -/
  values : List Nat
  deriving DecidableEq, Repr

/-- A table of characters. The first of the `entries` about a character counts. -/
structure CodeTable where
  /-- Its entries. -/
  entries : List CodeTable.Entry
  deriving DecidableEq, Repr

namespace CodeTable

/-- The number that is written in hexadecimal digits. -/
def readNumber (s : List Char) : Nat :=
  s.foldl (fun n c => 16 * n + (hexValue? c).getD 0) 0

/-- The entry that a text without blanks stands for. Without a second character the range is the
    first one alone. -/
def Entry.read (s : List Char) : Entry :=
  let (range, values) := splitFirst ':' s
  let (range, step) := splitFirst '/' range
  let (first, last) := splitFirst '-' range
  { first := readNumber first
    last := readNumber (last.getD first)
    step := (step.map readNumber).getD 1
    values := (values.map fun v => (splitAt ',' v).map readNumber).getD [] }

/-- The table that some lines of text stand for, with the entries of all lines in order. -/
def read (lines : List String) : CodeTable :=
  ⟨lines.flatMap fun line => (splitAt ' ' line.toList).map Entry.read⟩

/-- Whether the entry is about the character `c`. -/
def Entry.holds (e : Entry) (c : Char) : Bool :=
  e.first ≤ c.toNat && c.toNat ≤ e.last && (c.toNat - e.first) % e.step == 0

/-- The first entry about the character `c`. -/
def find? (t : CodeTable) (c : Char) : Option Entry :=
  t.entries.find? (·.holds c)

/-- Whether the table has an entry about the character `c`. -/
def contains (t : CodeTable) (c : Char) : Bool :=
  (t.find? c).isSome

/-- The number that belongs to the character `c`, 0 when its entry has none. -/
def value? (t : CodeTable) (c : Char) : Option Nat :=
  (t.find? c).map (·.values.headD 0)

end CodeTable

end PagePatch.Text
