namespace PagePatch.Text

/-!
# Percent encoding

Bytes that may not stand for themselves are written `%XX` with upper-case digits.

* `percentEncodeWith` — encodes every byte of the characters outside a given set;
* `percentEncode` — the encoding of form fields, where only unreserved characters stay;
* `percentDecodeBytes` — reads `%XX` back, leaving anything else as it is.
-/

/-- The hexadecimal digit for a value `n` below sixteen, letters in upper case. -/
def hexDigit (n : Nat) : Char :=
  Char.ofNat (if n < 10 then n + 48 else n + 55)

/-- The value of the hexadecimal digit `c`, which may be in either case. -/
def hexValue? (c : Char) : Option Nat :=
  if '0' ≤ c && c ≤ '9' then some (c.toNat - 48)
  else if 'A' ≤ c && c ≤ 'F' then some (c.toNat - 55)
  else if 'a' ≤ c && c ≤ 'f' then some (c.toNat - 87)
  else none

/-- The byte `b` as a percent sign and two digits. -/
def percentByte (b : UInt8) : List Char :=
  ['%', hexDigit (b.toNat / 16), hexDigit (b.toNat % 16)]

/-- Keeps the characters that satisfy `keep`, and percent-encodes the UTF-8 bytes of all others. -/
def percentEncodeWith (keep : Char → Bool) (s : List Char) : List Char :=
  s.flatMap fun c => if keep c then [c] else (String.utf8EncodeChar c).flatMap percentByte

/-- Whether a character is unreserved: an ASCII letter or digit, or one of `-`, `_`, `.`, `~`. -/
def isUnreserved (c : Char) : Bool :=
  c.isAlphanum || c == '-' || c == '_' || c == '.' || c == '~'

/-- Percent-encodes all characters of `s` but the unreserved ones. -/
def percentEncode (s : String) : String :=
  String.ofList (percentEncodeWith isUnreserved s.toList)

/-- Reads every `%XX` as the byte it stands for; other bytes are kept, and so is a percent sign
    without two digits behind it. -/
def percentDecodeBytes : List UInt8 → List UInt8
  | b :: h :: l :: rest =>
    match b == 37, hexValue? (Char.ofNat h.toNat), hexValue? (Char.ofNat l.toNat) with
    | true, some hi, some lo => UInt8.ofNat (16 * hi + lo) :: percentDecodeBytes rest
    | _, _, _ => b :: percentDecodeBytes (h :: l :: rest)
  | bytes => bytes

/-- The UTF-8 bytes of a list of characters, each by `String.utf8EncodeChar`. -/
def utf8 (s : List Char) : List UInt8 :=
  s.flatMap String.utf8EncodeChar

/-- The number of UTF-8 bytes of a list of characters, which `utf8` lists. -/
def byteLength (s : List Char) : Nat :=
  (utf8 s).length

end PagePatch.Text
