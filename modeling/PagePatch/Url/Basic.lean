import PagePatch.Text.Percent

namespace PagePatch

/-!
# Web addresses

An absolute address taken apart, and its written form.

* `Url.Host` — a domain name, a version 4 or version 6 address, or a name that is kept as written;
* `Url.Path` — a list of segments, or text of a scheme without hierarchy (`mailto:a@b`);
* `Url.ParseError` — why a text is not an absolute address;
* `Url.toString` — the written form.
-/

namespace Url

/-- Why a text is not an absolute address. -/
inductive ParseError where
  | emptyHost
  | invalidDomainName
  | invalidPort
  | invalidIpv4Address
  | invalidIpv6Address
  | invalidDomainCharacter
  | relativeWithoutBase
  deriving DecidableEq, Repr

/-- The wording of an address error, as callers are told it. -/
def ParseError.message : ParseError → String
  | emptyHost => "empty host"
  | invalidDomainName => "invalid international domain name"
  | invalidPort => "invalid port number"
  | invalidIpv4Address => "invalid IPv4 address"
  | invalidIpv6Address => "invalid IPv6 address"
  | invalidDomainCharacter => "invalid domain character"
  | relativeWithoutBase => "relative URL without a base"

/-- Where an address points to: the host of its authority. -/
inductive Host where
  /-- A domain name or, outside the special schemes, any name. -/
  | name (text : String)
  /-- A version 4 address as one number. -/
  | ipv4 (address : Nat)
  /-- A version 6 address as its eight pieces of sixteen bits. -/
  | ipv6 (pieces : List Nat)
  deriving DecidableEq, Repr

/-- The part of an address behind its host. -/
inductive Path where
  /-- Segments, each written behind a slash. -/
  | segments (parts : List String)
  /-- The text of a scheme whose addresses have no hierarchy. -/
  | rootless (text : String)
  deriving DecidableEq, Repr

/-- The schemes whose syntax the standard fixes, with their default ports; that of files has
    none. -/
def specialSchemes : List (String × Option Nat) :=
  [("http", some 80), ("https", some 443), ("ws", some 80), ("wss", some 443), ("ftp", some 21),
    ("file", none)]

/-- Whether the syntax of a scheme is fixed by the standard. -/
def isSpecial (scheme : String) : Bool :=
  specialSchemes.any (·.1 == scheme)

/-- The port that a scheme implies, if it implies one. -/
def defaultPort (scheme : String) : Option Nat :=
  (specialSchemes.lookup scheme).join

/-- A version 4 address in dotted decimal notation: its four bytes, the highest one first. -/
def ipv4Text (address : Nat) : String :=
  ".".intercalate ([24, 16, 8, 0].map fun shift => toString ((address >>> shift) % 256))

/-- The start and length of the first longest run of zeros; `i` is the index of the first piece,
    `run` the length of the run that ends just before it. -/
def longestZeros (i run : Nat) (best : Nat × Nat) : List Nat → Nat × Nat
  | [] => best
  | p :: rest =>
    if p = 0 then
      longestZeros (i + 1) (run + 1) (if best.2 < run + 1 then (i - run, run + 1) else best) rest
    else longestZeros (i + 1) 0 best rest

/-- A version 6 address with its first longest run of at least two zero pieces left out. -/
def ipv6Text (pieces : List Nat) : String :=
  let hex (ps : List Nat) := ":".intercalate (ps.map fun p => String.ofList (Nat.toDigits 16 p))
  let (start, length) := longestZeros 0 0 (0, 0) pieces
  if length < 2 then hex pieces
  else hex (pieces.take start) ++ "::" ++ hex (pieces.drop (start + length))

/-- The written form of a host; a version 6 address stands in brackets. -/
def Host.toString : Host → String
  | name text => text
  | ipv4 address => ipv4Text address
  | ipv6 pieces => "[" ++ ipv6Text pieces ++ "]"

end Url

/-- An absolute address, taken apart; `Url.parse` reads one and `Url.toString` writes it. -/
structure Url where
  /-- The scheme in lower case, without its colon. -/
  scheme : String
  /-- The user name, percent-encoded. -/
  username : String
  /-- The password, percent-encoded. -/
  password : String
  /-- The host, when the address has an authority. It may be an empty name. -/
  host : Option Url.Host
  /-- The port, when it is not the default of the scheme. -/
  port : Option Nat
  /-- The path, behind the authority or the scheme. -/
  path : Url.Path
  /-- What follows the first question mark, up to the fragment. -/
  query : Option String
  /-- What follows the first number sign. -/
  fragment : Option String
  deriving DecidableEq, Repr

namespace Url

/-- The written form of the authority of `u`, with its two slashes; empty if `u.host` is `none`. -/
def authorityText (u : Url) : String :=
  match u.host with
  | none => ""
  | some host =>
    let password := if u.password.isEmpty then "" else ":" ++ u.password
    let user :=
      if u.username.isEmpty && u.password.isEmpty then "" else u.username ++ password ++ "@"
    let port := match u.port with
      | none => ""
      | some n => ":" ++ toString n
    "//" ++ user ++ host.toString ++ port

/-- The written form of the path; a path that would read as an authority is put behind `/.`. -/
def pathText (u : Url) : String :=
  match u.path with
  | .rootless text => text
  | .segments parts =>
    let guard := if u.host.isNone && parts.length > 1 && parts.head? == some "" then "/." else ""
    guard ++ String.join (parts.map ("/" ++ ·))

/-- The written form of an address. -/
protected def toString (u : Url) : String :=
  u.scheme ++ ":" ++ u.authorityText ++ u.pathText ++
    (match u.query with | none => "" | some q => "?" ++ q) ++
    (match u.fragment with | none => "" | some f => "#" ++ f)

instance : ToString Url := ⟨Url.toString⟩

end Url

end PagePatch
