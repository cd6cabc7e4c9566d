import PagePatch.Domain.Composition
import PagePatch.Domain.Direction
import PagePatch.Domain.Joining
import PagePatch.Domain.Mapping
import PagePatch.Domain.Punycode

namespace PagePatch.Domain

/-!
# Domain names

* `Label` and `Label.read?` — a label as it reads and as it is written in ASCII;
* `toAscii?` — the ASCII form of a name, if it is a name.
-/

/-- Whether `c` is an ASCII character that no name may hold. -/
def isForbidden (c : Char) : Bool :=
  c ≤ ' ' || c == '\x7f' || "%#/:<>?@[\\]^|".toList.contains c

/-- Whether the text `s` consists of ASCII characters alone. -/
def isAscii (s : List Char) : Bool :=
  s.all (·.toNat < 128)

/-! ### Labels -/

/-- A label of a domain name: as a reader sees it and as it is written in an address. -/
structure Label where
  /-- Its text. -/
  text : List Char
  /-- Its ASCII form. -/
  ascii : List Char
  deriving DecidableEq, Repr

/-- The mark in front of an ASCII form that stands for other characters. -/
def asciiMark : List Char := "xn--".toList

/-- Whether the text `s` outside ASCII can be a label: it does not begin with a combining mark, and
    its joiners make a difference. -/
def isLabel (s : List Char) : Bool :=
  !s.head?.any isMark && joinersFit [] s

/-- Whether the text `s` is as it would be if it were read as part of a name: an ASCII form must not
    hide another spelling. -/
def isSettled (s : List Char) : Bool :=
  mapName s == some s && composed s == s

/-- Reads a label of a name whose characters have been replaced and composed. Both an ASCII form and
    the label it stands for are read. -/
def Label.read? (s : List Char) : Option Label :=
  match Text.dropPrefix? asciiMark s with
  | some form =>
    if !isAscii form || form.length > 2000 then none
    else
      match Punycode.decode? form with
      | some text =>
        if !isAscii text && isSettled text && isLabel text then some ⟨text, s⟩ else none
      | none => none
  | none =>
    if isAscii s then some ⟨s, s⟩
    else if isLabel s && s.length ≤ 1000 then some ⟨s, asciiMark ++ Punycode.encode s⟩
    else none

/-! ### Names -/

/-- The labels of `name`. When any label holds letters that run to the left, all have to obey the
    rule `directionsFit` for such names. -/
def labels? (name : List Char) : Option (List Label) := do
  let settled := composed (← mapName name)
  if settled.any isForbidden then none
  let labels ← (Text.splitAt '.' settled).mapM Label.read?
  if labels.any (runsLeft ·.text) && !labels.all (directionsFit ·.text) then none
  some labels

/-- The ASCII form of `name`: small letters, without forbidden characters; nothing if it is no
    name. -/
def toAscii? (name : List Char) : Option (List Char) :=
  (labels? name).map fun labels => ['.'].intercalate (labels.map Label.ascii)

end PagePatch.Domain
