import PagePatch.Text.Percent

namespace PagePatch.Xml

/-!
# References

The five predefined entities and numeric character references.

* `reference?` — the character that a name between `&` and `;` stands for;
* `unescape` — a text with its references replaced, if all of them are good;
* `unescapeOrRaw` — the same, where one bad reference leaves the whole text as it is.
-/

/-- The character with the number `n`: any scalar value but zero. -/
def scalar? (n : Nat) : Option Char :=
  if n.isValidChar ∧ n ≠ 0 then some (Char.ofNat n) else none

/-- The value of a nonempty number in the given `base`. -/
def digits? (base : Nat) (s : List Char) : Option Nat :=
  if s.isEmpty then none
  else (s.mapM fun c => (Text.hexValue? c).filter (· < base)).map (·.foldl (base * · + ·) 0)

/-- The character that a `name` between `&` and `;` stands for, if there is one. -/
def reference? (name : List Char) : Option Char :=
  match name with
  | ['l', 't'] => some '<'
  | ['g', 't'] => some '>'
  | ['a', 'm', 'p'] => some '&'
  | ['a', 'p', 'o', 's'] => some '\''
  | ['q', 'u', 'o', 't'] => some '"'
  | '#' :: 'x' :: hex => (digits? 16 hex).bind scalar?
  | '#' :: decimal => (digits? 10 decimal).bind scalar?
  | _ => none

/-- Replaces references; the first argument holds the characters since an open `&`, in reverse
    order. One reference that is bad or open spoils the whole text. -/
def unescape : Option (List Char) → List Char → Option (List Char)
  | none, [] => some []
  | some _, [] => none
  | none, c :: rest =>
    if c = '&' then unescape (some []) rest else (unescape none rest).map (c :: ·)
  | some name, c :: rest =>
    if c = '&' then none
    else if c = ';' then
      match reference? name.reverse with
      | some r => (unescape none rest).map (r :: ·)
      | none => none
    else unescape (some (c :: name)) rest

/-- Replaces the references in `s`, or keeps the whole text when one of them is bad or open. -/
def unescapeOrRaw (s : List Char) : List Char :=
  (unescape none s).getD s

end PagePatch.Xml
