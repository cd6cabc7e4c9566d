namespace PagePatch.Domain.Punycode

/-!
# Labels in ASCII

The ASCII form of a label has its ASCII characters in front of a dash and behind it, as a row of
numbers, which other characters are to be put in and where. A number is written in digits from 0
to 35, the lowest digit first; the last digit of a number is the first one below a threshold,
which depends on the numbers before.

* `encode` — the ASCII form of a label, without its mark;
* `decode?` — the label of an ASCII form.
-/

/-! ### Numbers -/

/-- The digit of the value `d`, from 0 to 35: a letter or a decimal digit. -/
def digit (d : Nat) : Char :=
  Char.ofNat (if d < 26 then 97 + d else 22 + d)

/-- The value of a digit; capital letters are none, since names have been replaced by small ones. -/
def digit? (c : Char) : Option Nat :=
  if c.isLower then some (c.toNat - 97) else if c.isDigit then some (c.toNat - 22) else none

/-- The threshold of the digit at `position`, from 1 to 26; it grows with the distance from
    `bias`. -/
def threshold (bias position : Nat) : Nat :=
  max 1 (min 26 (position - bias))

/-- The digits of the number `q` from a position on, up to a number of them; each but the last is at
    least its threshold. -/
def digits (bias : Nat) : Nat → Nat → Nat → List Char
  | 0, _, _ => []
  | n + 1, position, q =>
    let t := threshold bias position
    if q < t then [digit q]
    else digit (t + (q - t) % (36 - t)) :: digits bias n (position + 36) ((q - t) / (36 - t))

/-- Divides `delta` by 35 until it is small, up to a number of times, and counts in `k` the digits
    that this saves. -/
def reduceDelta : Nat → Nat → Nat → Nat × Nat
  | 0, k, delta => (k, delta)
  | n + 1, k, delta => if delta > 455 then reduceDelta n (k + 36) (delta / 35) else (k, delta)

/-- The bias that follows from the number `delta`, when `count` characters are in place. The `first`
    number of a label is damped more than the others. -/
def adaptBias (delta count : Nat) (first : Bool) : Nat :=
  let delta := if first then delta / 700 else delta / 2
  let (k, delta) := reduceDelta 64 0 (delta + delta / count)
  k + 36 * delta / (delta + 38)

/-! ### Writing -/

/-- How far the writing of a label has come: what `encodeOccurrences` carries along. -/
structure Writing where
  /-- The number to be written next. -/
  delta : Nat := 0
  /-- The bias. -/
  bias : Nat := 72
  /-- How many characters have been dealt with. -/
  handled : Nat
  /-- What was written. -/
  written : List Char := []
  deriving DecidableEq, Repr

/-- Puts in every occurrence of the character `n` in `label`. `basic` is the number of ASCII
    characters. -/
def encodeOccurrences (basic n : Nat) (s : Writing) (label : List Nat) : Writing :=
  label.foldl (fun s c =>
    if c < n then { s with delta := s.delta + 1 }
    else if c = n then
      { delta := 0
        bias := adaptBias s.delta (s.handled + 1) (s.handled = basic)
        handled := s.handled + 1
        written := s.written ++ digits s.bias 64 36 s.delta }
    else s) s

/-- The numbers of the list `ns` in rising order, each once. -/
def risingNumbers (ns : List Nat) : List Nat :=
  ns.foldl (fun sorted n => (sorted.filter (· < n)) ++ n :: sorted.filter (n < ·)) []

/-- The ASCII form of `label`, without its mark: its ASCII characters, a dash, and where the others
    go, from the lowest up. -/
def encode (label : List Char) : List Char :=
  let numbers := label.map Char.toNat
  let basic := label.filter (·.toNat < 128)
  let (s, _) := (risingNumbers (numbers.filter (128 ≤ ·))).foldl (fun (s, next) n =>
      -- each number passed over counts once for every place in the label
      let s := { s with delta := s.delta + (n - next) * (s.handled + 1) }
      let s := encodeOccurrences basic.length n s numbers
      ({ s with delta := s.delta + 1 }, n + 1))
    (({ handled := basic.length } : Writing), 128)
  basic ++ (if basic.isEmpty then [] else ['-']) ++ s.written

/-! ### Reading -/

/-- How far the reading of a label has come: what `Reading.next` carries along. -/
structure Reading where
  /-- The label so far. -/
  label : List Char
  /-- The character that was put in last. -/
  code : Nat := 128
  /-- The bias. -/
  bias : Nat := 72
  /-- Where the number that is being read began to count. -/
  start : Nat := 0
  /-- The number so far. -/
  number : Nat := 0
  /-- What one unit of the next digit adds to the number. -/
  weight : Nat := 1
  /-- The position of the next digit, 36 at the beginning of a number. -/
  position : Nat := 36
  deriving DecidableEq, Repr

/-- What the numbers of a label stay below. -/
def limit : Nat := 4294967296

/-- Puts in the character that the whole number `number` stands for, and gets ready for the next
    number. -/
def Reading.putIn (s : Reading) (number : Nat) : Option Reading :=
  let count := s.label.length + 1
  let code := s.code + number / count
  let place := number % count
  if code.isValidChar then
    some {
      label := s.label.take place ++ Char.ofNat code :: s.label.drop place
      code
      bias := adaptBias (number - s.start) count (s.start == 0)
      start := place + 1
      number := place + 1 }
  else none

/-- Reads the digit `c`; nothing if it is none or the number gets too large. -/
def Reading.next (s : Reading) (c : Char) : Option Reading := do
  let d ← digit? c
  let number := s.number + d * s.weight
  let t := threshold s.bias s.position
  let weight := s.weight * (36 - t)
  if limit ≤ number then none
  else if d < t then s.putIn number
  else if limit ≤ weight then none
  else some { s with number, weight, position := s.position + 36 }

/-- The label of the ASCII form `s` without its mark; nothing if a number is cut short or stands for
    no character. -/
def decode? (s : List Char) : Option (List Char) := do
  let tail := (s.reverse.takeWhile (· != '-')).reverse
  let basic := s.take (s.length - tail.length)
  -- a dash with nothing in front of it is left to the digits, of which it is none
  let (basic, tail) := if basic == ['-'] then ([], s) else (basic.dropLast, tail)
  let reading ← tail.foldlM Reading.next ({ label := basic } : Reading)
  -- behind the last digit of a number the position starts over
  if reading.position = 36 then some reading.label else none

end PagePatch.Domain.Punycode
