import PagePatch.Domain.Name
import PagePatch.Url.Basic
import PagePatch.Url.Segments

namespace PagePatch.Url

open Text (splitAt)

/-!
# Hosts

Reading the host of an address.

* `Host.parse` — the host of a special scheme: a domain name or a numeric address;
* `Host.parsePlain` — the host of any other scheme, kept as written.
-/

/-! ### Version 4 addresses -/

/-- The value of a number in the given `base`, if all of its characters are digits of that base. -/
def number? (base : Nat) (s : List Char) : Option Nat :=
  (s.mapM fun c => (Text.hexValue? c).filter (· < base)).map (·.foldl (base * · + ·) 0)

/-- The value of one part of a dotted address: hexadecimal behind `0x`, octal behind `0`, else
    decimal. -/
def ipv4Number? : List Char → Option Nat
  | [] => none
  | '0' :: 'x' :: s => number? 16 s
  | '0' :: 'X' :: s => number? 16 s
  | '0' :: s => number? 8 s
  | s => number? 10 s

/-- Whether the last part of the name `s` is a number, in which case `Host.parse` reads the name as
    an address. -/
def endsInNumber (s : List Char) : Bool :=
  let parts := (splitAt '.' s).reverse
  -- a dot at the end does not count
  let last := match parts with
    | [] :: rest => rest.head?
    | part :: _ => some part
    | [] => none
  match last with
  | none => false
  | some part => (!part.isEmpty && part.all Char.isDigit) || (ipv4Number? part).isSome

/-- Reads a dotted address of at most four parts, the last of which fills all remaining bytes. -/
def ipv4? (s : List Char) : Option Nat := do
  let parts := splitAt '.' s
  let parts := if parts.getLast? == some [] then parts.dropLast else parts
  if parts.length > 4 then none
  let numbers ← parts.mapM ipv4Number?
  let last ← numbers.getLast?
  let front := numbers.dropLast
  let width := 8 * (4 - front.length)
  if last >>> width ≠ 0 || front.any (· > 255) then none
  pure ((front.foldl (256 * · + ·) 0) <<< width + last)

/-! ### Version 6 addresses -/

/-- The two last pieces of a version 6 address from four decimal parts below 256 without leading
    zeros. -/
def ipv4Tail? (s : List Char) : Option (List Nat) := do
  let parts ← (splitAt '.' s).mapM fun part => do
    if part.length > 1 && part.head? == some '0' then none
    if part.isEmpty then none
    let n ← number? 10 part
    if n > 255 then none else some n
  match parts with
  | [a, b, c, d] => some [a * 256 + b, c * 256 + d]
  | _ => none

/-- The pieces of a version 6 address between colons; a dotted address may stand last when `tail`
    holds. -/
def ipv6Pieces? (tail : Bool) : List (List Char) → Option (List Nat)
  | [] => some []
  | [part] =>
    if tail && part.contains '.' then ipv4Tail? part
    else if part.isEmpty || part.length > 4 then none
    else (number? 16 part).map ([·])
  | part :: rest => do
    if part.isEmpty || part.length > 4 then none
    let p ← number? 16 part
    let ps ← ipv6Pieces? tail rest
    pure (p :: ps)

/-- Splits a text at the first double colon, if it has one. -/
def splitDoubleColon : List Char → Option (List Char × List Char)
  | [] => none
  | ':' :: ':' :: rest => some ([], rest)
  | c :: rest => (splitDoubleColon rest).map fun (front, back) => (c :: front, back)

/-- The eight pieces of a version 6 address, of which at least one is left out where
    `splitDoubleColon` finds a double colon. -/
def ipv6? (s : List Char) : Option (List Nat) :=
  match splitDoubleColon s with
  | none => (ipv6Pieces? true (splitAt ':' s)).filter (·.length = 8)
  | some (front, back) => do
    let side (tail : Bool) (text : List Char) :=
      if text.isEmpty then some [] else ipv6Pieces? tail (splitAt ':' text)
    let front ← side false front
    let back ← side true back
    if front.length + back.length > 7 then none
    pure (front ++ List.replicate (8 - front.length - back.length) 0 ++ back)

/-- Reads a version 6 address in brackets, and nothing behind them. -/
def bracketed (s : List Char) : Except ParseError Host :=
  match s.getLast?, ipv6? (s.drop 1).dropLast with
  | some ']', some pieces => .ok (.ipv6 pieces)
  | _, _ => .error .invalidIpv6Address

/-! ### Names -/

/-- Whether a character may stand in no host. -/
def isForbiddenInHost (c : Char) : Bool :=
  c == '\x00' || c == '\t' || c == '\n' || c == '\r' || " #/:<>?@[\\]^|".toList.contains c

/-- Reads the host `s` of a special scheme. What it is percent-decoded to is mapped to a domain in
    ASCII, which may turn out to be a numeric address by `endsInNumber`. -/
def Host.parse (s : List Char) : Except ParseError Host := do
  if s.head? == some '[' then bracketed s
  else
    let bytes := Text.percentDecodeBytes (Text.utf8 s)
    let some decoded := String.fromUTF8? ⟨bytes.toArray⟩ | throw .invalidDomainName
    let some domain := Domain.toAscii? decoded.toList | throw .invalidDomainName
    if domain.isEmpty then throw .emptyHost
    if endsInNumber domain then
      match ipv4? domain with
      | some address => pure (.ipv4 address)
      | none => throw .invalidIpv4Address
    else pure (.name (String.ofList domain))

/-- Reads the host `s` of a scheme that is not special: no character `isForbiddenInHost`, and
    controls are encoded. -/
def Host.parsePlain (s : List Char) : Except ParseError Host :=
  if s.head? == some '[' then bracketed s
  else if s.any isForbiddenInHost then .error .invalidDomainCharacter
  else .ok (.name (String.ofList (Text.percentEncodeWith (!isControl ·) s)))

end PagePatch.Url
