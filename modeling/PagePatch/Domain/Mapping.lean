import PagePatch.Domain.MappingTable

namespace PagePatch.Domain

open Text

/-!
# Characters of domain names

Capital letters, wide, narrow and decorated forms of a character are the same to a domain name, and
some characters do not count at all.

* `mapChar` — what stands for a character, if a name may hold it;
* `mapName` — a name with every character so replaced.
-/

/-- The tables of replacements, in the order of the characters they are for. -/
def mappingTables : List CodeTable :=
  [mappedLetters, mappedSymbols, mappedForms, mappedSupplement]

/-- What the entry `e` gives for the character `c`: its list of characters, or the character at the
    same place in the range that begins with its number. -/
def image (e : CodeTable.Entry) (c : Char) : List Char :=
  match e.values with
  | [first] => [Char.ofNat (first + (c.toNat - e.first))]
  | ns => ns.map Char.ofNat

/-- What stands for the character `c` in a domain name, nothing for a character that no name may
    hold. -/
def mapChar (c : Char) : Option (List Char) :=
  if c < '\x80' then some [c.toLower]
  else if barredCharacters.contains c then none
  else
    match mappingTables.findSome? (·.find? c) with
    | some e => some (image e c)
    | none => some [c]

/-- The name `s` with every character replaced by what stands for it, if a name may hold them
    all. -/
def mapName (s : List Char) : Option (List Char) :=
  (s.mapM mapChar).map List.flatten

end PagePatch.Domain
