import PagePatch.Text.Percent

namespace PagePatch

/-!
# Request ids

A request is named by a universally unique identifier of 128 bits.

* `RequestId.ofDraw` — the identifier made from a random draw;
* `RequestId.toString` — the hyphenated form in lower case;
* `RequestId.parse?` — reads the hyphenated, plain, braced and `urn:uuid:` forms.
-/

/-- A universally unique identifier, of a request. -/
structure RequestId where
  /-- The 128 bits, most significant first. -/
  value : BitVec 128
  deriving DecidableEq, Repr, Inhabited

namespace RequestId

/-- The identifier of a random `draw`: version 4 and the standard variant are set, and the low 62
    bits of the draw stand at the end. -/
def ofDraw (draw : Nat) : RequestId :=
  ⟨BitVec.ofNat 48 (draw >>> 74) ++ 4#4 ++ BitVec.ofNat 12 (draw >>> 62) ++ 2#2 ++
    BitVec.ofNat 62 draw⟩

/-- The version of the identifier, held by the high half of byte six; that of `ofDraw` is 4. -/
def version (id : RequestId) : Nat :=
  (id.value.toNat >>> 76) % 16

/-- The lower-case digit for a value `n` below sixteen. -/
private def digit (n : Nat) : Char :=
  Char.ofNat (if n < 10 then n + 48 else n + 87)

/-- The thirty-two hexadecimal digits of the identifier, most significant first. -/
def digits (id : RequestId) : List Char :=
  (List.range 32).map fun i => digit ((id.value.toNat >>> (4 * (31 - i))) % 16)

/-- The hyphenated form in lower case: the `digits` in groups of 8, 4, 4, 4 and 12. -/
protected def toString (id : RequestId) : String :=
  let d := id.digits
  String.ofList (d.take 8 ++ '-' :: (d.drop 8).take 4 ++ '-' :: (d.drop 12).take 4 ++
    '-' :: (d.drop 16).take 4 ++ '-' :: d.drop 20)

instance : ToString RequestId := ⟨RequestId.toString⟩

/-- Reads exactly thirty-two hexadecimal digits, of either case. -/
private def ofDigits? (s : List Char) : Option RequestId :=
  if s.length = 32 then
    (s.mapM Text.hexValue?).map fun ds => ⟨BitVec.ofNat 128 (ds.foldl (16 * · + ·) 0)⟩
  else none

/-- Reads the hyphenated form: groups of 8, 4, 4, 4 and 12 digits. -/
private def ofHyphenated? (s : List Char) : Option RequestId :=
  if [8, 13, 18, 23].all (fun i => s[i]? == some '-') then
    ofDigits? (s.take 8 ++ (s.drop 9).take 4 ++ (s.drop 14).take 4 ++ (s.drop 19).take 4 ++
      s.drop 24)
  else none

/-- Reads the plain form, or the hyphenated form bare, in braces or behind `urn:uuid:` in any case.
    The length of the text tells which one it can be. -/
def parse? (text : String) : Option RequestId :=
  let s := text.toList
  let n := s.length
  if n = 32 then ofDigits? s
  else if n = 36 then ofHyphenated? s
  else if n = 38 && s.head? == some '\x7b' && s.getLast? == some '\x7d' then
    ofHyphenated? ((s.drop 1).take 36)
  else if n = 45 && (s.take 9).map Char.toLower == "urn:uuid:".toList then
    ofHyphenated? (s.drop 9)
  else none

end RequestId

end PagePatch
