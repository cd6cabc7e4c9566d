import PagePatch.Text.Percent

namespace PagePatch.Url

/-!
# What the parts of an address may hold

Each part of an address keeps some characters and writes the bytes of all others as `%XX`.

* `keptInPath`, `keptInUserinfo`, `keptInQuery`, `keptInFragment` — the characters of each part;
* `encoded` — a part with all other characters encoded.
-/

/-- Whether a character is a control character or one outside ASCII. -/
def isControl (c : Char) : Bool :=
  c < ' ' || c ≥ '\x7f'

/-- Whether a character stands for itself in a fragment. -/
def keptInFragment (c : Char) : Bool :=
  !isControl c && !(" \"<>`".toList.contains c)

/-- Whether a character stands for itself in a segment of a path: it is `keptInFragment` and neither
    ends the path nor is a brace. -/
def keptInPath (c : Char) : Bool :=
  keptInFragment c && !("#?\x7b\x7d".toList.contains c)

/-- Whether a character stands for itself in a user name or password: it is `keptInPath` and no mark
    of an authority. -/
def keptInUserinfo (c : Char) : Bool :=
  keptInPath c && !("/:;=@[\\]^|".toList.contains c)

/-- Whether a character stands for itself in a query; a `special` scheme encodes the apostrophe as
    well. -/
def keptInQuery (special : Bool) (c : Char) : Bool :=
  !isControl c && !(" \"#<>".toList.contains c) && !(special && c == '\'')

/-- Percent-encodes the characters of `s` that `keep` does not allow in this part of an address. -/
def encoded (keep : Char → Bool) (s : List Char) : String :=
  String.ofList (Text.percentEncodeWith keep s)

end PagePatch.Url
