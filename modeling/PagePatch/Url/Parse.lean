import PagePatch.Url.Host

namespace PagePatch.Url

open Text (splitFirst)

/-!
# Reading addresses

`Url.parse` takes an absolute address apart: blanks at its ends and all tabs and line ends are
ignored, the scheme and host are put in lower case, a default port is dropped, dot segments are
resolved and characters with no place in their part are percent-encoded.
-/

/-! ### Parts -/

/-- Splits off the scheme: a letter, then letters, digits, `+`, `-` and `.`, then a colon. -/
def splitScheme (s : List Char) : Option (String × List Char) :=
  let isSchemeChar (c : Char) : Bool := c.isAlphanum || c == '+' || c == '-' || c == '.'
  let scheme := s.takeWhile isSchemeChar
  match s.dropWhile isSchemeChar with
  | ':' :: rest =>
    if (scheme.head?.any Char.isAlpha) then some (String.ofList (scheme.map Char.toLower), rest)
    else none
  | _ => none

/-- Splits the text `s` at its last `sep`, if it has one. -/
def splitLast (sep : Char) (s : List Char) : Option (List Char × List Char) :=
  if s.contains sep then
    some ((s.reverse.dropWhile (· != sep)).drop 1 |>.reverse,
      (s.reverse.takeWhile (· != sep)).reverse)
  else none

/-- Reads a port of at most sixteen bits; none given, or the default of the `scheme`, is no port. -/
def parsePort (scheme : String) (s : List Char) : Except ParseError (Option Nat) :=
  match number? 10 s with
  | none => .error .invalidPort
  | some n =>
    if n > 65535 then .error .invalidPort
    else if s.isEmpty || defaultPort scheme == some n then .ok none
    else .ok (some n)

/-- Splits host and port at the first colon outside brackets; the first argument tells whether one
    is open. -/
def splitPort : Bool → List Char → List Char × Option (List Char)
  | _, [] => ([], none)
  | inside, c :: rest =>
    if c == ':' && !inside then ([], some rest)
    else
      let (host, port) := splitPort (c == '[' || (inside && c != ']')) rest
      (c :: host, port)

/-- User name and password, both percent-encoded; the first colon ends the name. -/
def parseUserinfo (s : List Char) : String × String :=
  let (user, password) := splitFirst ':' s
  (encoded keptInUserinfo user, encoded keptInUserinfo (password.getD []))

/-! ### Whole addresses -/

/-- Splits what stands behind the colon of a port into the port and the path that follows it
    without a slash. -/
def splitPath (s : List Char) : List Char × List Char :=
  (s.takeWhile (· != '\\'), s.dropWhile (· != '\\'))

/-- Reads what follows the two slashes of an authority; `more` tells that a query or fragment
    follows. -/
def parseAuthority (scheme : String) (s : List Char) (more : Bool) : Except ParseError Url := do
  let special := isSpecial scheme
  let ends (c : Char) : Bool := c == '/' || (special && c == '\\')
  let authority := s.takeWhile (!ends ·)
  let path := s.dropWhile (!ends ·)
  let (userinfo, hostport) ← match splitLast '@' authority with
    | none => pure ([], authority)
    | some ([], rest) =>
      -- an empty user name is only a fault without a host behind it
      if rest.isEmpty && (more || !path.isEmpty) then throw .emptyHost else pure ([], rest)
    | some (userinfo, rest) => pure (userinfo, rest)
  let (username, password) := parseUserinfo userinfo
  let (hostText, portText) := splitPort false hostport
  let named := username ≠ "" || password ≠ ""
  if hostText.isEmpty && (special || portText.isSome || named) then throw .emptyHost
  let host ← if special then Host.parse hostText else Host.parsePlain hostText
  let (portText, front) := splitPath (portText.getD [])
  let port ← parsePort scheme portText
  let path := Path.segments (segmentsOf special (front ++ path))
  pure { scheme, username, password, host, port, path, query := none, fragment := none }

/-- An address with the given `scheme`, `host` and `path` alone. -/
def bare (scheme : String) (host : Option Host) (path : Path) : Url :=
  { scheme, username := "", password := "", host, port := none, path, query := none,
    fragment := none }

/-- A file address on a host, from the text behind the first slash of its path. A drive at the
    front of the path takes the place of the host. -/
def fileOn (host : Host) (s : List Char) : Url :=
  let (segments, drive) := fileSegments s
  bare "file" (some (if drive then .name "" else host)) (.segments segments)

/-- A file address on this machine, from the text behind the first slash of its path. -/
def fileHere (s : List Char) : Url :=
  fileOn (.name "") s

/-- Reads what follows the two slashes of a file address. A drive letter in the place of a host
    begins the path, and no host is the same as `localhost`. -/
def parseFileHost (s : List Char) : Except ParseError Url := do
  let isSlash (c : Char) : Bool := c == '/' || c == '\\'
  let hostText := s.takeWhile (!isSlash ·)
  let path := s.dropWhile (!isSlash ·)
  if isDrive hostText then pure (fileHere s)
  else
    let host ← if hostText.isEmpty then pure (Host.name "localhost") else Host.parse hostText
    if host == .name "localhost" then pure (fileHere path) else pure (fileOn host (path.drop 1))

/-- Reads what follows `file:`, with or without an authority. -/
def parseFile (s : List Char) : Except ParseError Url :=
  match slashed (s.take 2) with
  | ['/', '/'] => parseFileHost (s.drop 2)
  | '/' :: _ => .ok (fileHere (s.drop 1))
  | _ => .ok (fileHere s)

/-- Reads what stands between the scheme and the query; `more` tells that a query or fragment
    follows. -/
def parseHierarchy (scheme : String) (s : List Char) (more : Bool) : Except ParseError Url :=
  if scheme == "file" then parseFile s
  else if isSpecial scheme then
    parseAuthority scheme (s.dropWhile fun c => c == '/' || c == '\\') more
  else
    match s with
    | '/' :: '/' :: rest => parseAuthority scheme rest more
    | '/' :: _ => .ok (bare scheme none (.segments (segmentsOf false s)))
    | _ => .ok (bare scheme none (.rootless (encoded (!isControl ·) s)))

/-- Reads an absolute address from the text `raw`. -/
def parse (raw : String) : Except ParseError Url := do
  let isEdge (c : Char) : Bool := c ≤ ' '
  let s := ((raw.toList.dropWhile isEdge).reverse.dropWhile isEdge).reverse
  -- tabs and line ends are ignored wherever they stand
  let s := s.filter fun c => !(c == '\t' || c == '\n' || c == '\r')
  let some (scheme, rest) := splitScheme s | throw .relativeWithoutBase
  let (rest, fragment) := splitFirst '#' rest
  let (rest, query) := splitFirst '?' rest
  let u ← parseHierarchy scheme rest (query.isSome || fragment.isSome)
  pure { u with query := query.map (encoded (keptInQuery (isSpecial scheme))),
                fragment := fragment.map (encoded keptInFragment) }

end PagePatch.Url
