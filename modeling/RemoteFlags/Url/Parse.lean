import RemoteFlags.Text.Blank
import RemoteFlags.Url.Host
import RemoteFlags.Url.Path

/-!
# Reading URLs

A text becomes a URL in its normal form.  Blanks and controls at its ends and tabs and line breaks
inside are left out; the parts are told apart by their first characters, and every part is put into
normal form by itself.

## Main definitions

* `Url.parse`: reads a URL.
* `Url.join`: reads a reference from another URL, such as the place that a redirection names.
-/

namespace RemoteFlags

namespace Url

/-! ### Parts of the text -/

/-- The characters of a URL that count. -/
def significant (s : String) : List Char :=
  (Text.trimBy (fun c => c.toNat ≤ 0x20) s.toList).filter fun c => !isLeftOut c

/-- Whether a character may stand in a scheme. -/
def isSchemeChar (c : Char) : Bool := c.isAlphanum || c == '+' || c == '-' || c == '.'

/-- The scheme in lower case and what follows its colon. -/
def splitScheme? (cs : List Char) : Option (String × List Char) :=
  match cs with
  | [] => none
  | c :: _ =>
    if c.isAlpha then
      match cs.span isSchemeChar with
      | (scheme, ':' :: rest) => some (String.ofList (scheme.map Char.toLower), rest)
      | _ => none
    else none

/-- Whether a character ends the path. -/
def endsPath (c : Char) : Bool := c == '?' || c == '#'

/-- Whether a character ends the authority. -/
def endsAuthority (k : Kind) (c : Char) : Bool := endsPath c || endsSegment k c

/-- Whether a character counts as a slash in front of the authority. -/
def isSlash (c : Char) : Bool := c == '/' || c == '\\'

/-- The encoded query and fragment at the end of a URL. -/
def queryAndFragment (k : Kind) (cs : List Char) : Option String × Option String :=
  let encode (set : Char → Bool) (cs : List Char) : String := String.ofList (percentEncode set cs)
  let (front, rest) := cs.span (· != '#')
  let query := match front with
    | '?' :: q => some (encode (if k.isSpecial then inSpecialQuery else inQuery) q)
    | _ => none
  let fragment := match rest with
    | '#' :: f => some (encode inFragment f)
    | _ => none
  (query, fragment)

/-- The URL with the query and fragment that stand in `cs`. -/
def withEnd (u : Url) (k : Kind) (cs : List Char) : Url :=
  let (query, fragment) := queryAndFragment k cs
  { u with query := query, fragment := fragment }

/-! ### The authority -/

/-- The characters before and after the last one equal to `c`. -/
def splitAtLast? (c : Char) (cs : List Char) : Option (List Char × List Char) :=
  match cs.reverse.span (· != c) with
  | (after, _ :: before) => some (before.reverse, after.reverse)
  | (_, []) => none

/-- The characters up to the first colon outside brackets, and the rest. -/
def splitHost (inside : Bool) : List Char → List Char × List Char
  | [] => ([], [])
  | c :: cs =>
    if c = ':' ∧ inside = false then ([], c :: cs)
    else
      let p := splitHost (if c = '[' then true else if c = ']' then false else inside) cs
      (c :: p.1, p.2)

/-- The port at the start of a list, which a backslash may end.  The usual port of the scheme is
left out, and so is a colon without digits. -/
def readPort (scheme : String) (cs : List Char) : Except Fault (Option Nat × List Char) :=
  let (digits, rest) := cs.span Text.isDigit
  match rest with
  | [] | '\\' :: _ =>
    match Text.natural? digits with
    | none => .ok (none, rest)
    | some n =>
      if 65535 < n then .error .invalidPort
      else .ok (if defaultPort? scheme = some n then none else some n, rest)
  | _ => .error .invalidPort

/-- User name and password, encoded. -/
def readUserInfo (cs : List Char) : String × String :=
  let encode (cs : List Char) : String := String.ofList (percentEncode inUserInfo cs)
  match cs.span (· != ':') with
  | (name, _ :: password) => (encode name, encode password)
  | (name, []) => (encode name, "")

/-- Host and port; the rest is what follows a backslash after the port. -/
def readHostAndPort (scheme : String) (cs : List Char) :
    Except Fault (String × Option Nat × List Char) := do
  let (name, rest) := splitHost false cs
  let host ← match Kind.ofScheme scheme with
    | .general => plainHost name
    | _ => if name.isEmpty then .error .emptyHost else domainHost name
  match rest with
  | _ :: rest => do
    if host = "" then .error .emptyHost
    else
      let (port, rest) ← readPort scheme rest
      return (host, port, rest)
  | [] => return (host, none, [])

/-- The segments of the path after an authority. -/
def pathAfterAuthority (k : Kind) (cs : List Char) : List String :=
  match k.isSpecial, cs with
  | false, [] => []
  | _, c :: cs => resolvePath k [] (if endsSegment k c then cs else c :: cs)
  | true, [] => [""]

/-- Reads a URL after the slashes in front of its authority. -/
def readAuthority (scheme : String) (cs : List Char) : Except Fault Url := do
  let k := Kind.ofScheme scheme
  let (authority, rest) := cs.span fun c => !endsAuthority k c
  let (userInfo, server) := (splitAtLast? '@' authority).getD ([], authority)
  let named := authority.length ≠ server.length
  if named ∧ userInfo.isEmpty ∧ server.isEmpty ∧ !rest.isEmpty then .error .emptyHost
  else
    let (username, password) := readUserInfo userInfo
    let (host, port, left) ← readHostAndPort scheme server
    if host = "" ∧ !(username = "" ∧ password = "") then .error .emptyHost
    else
      let (path, tail) := (left ++ rest).span fun c => !endsPath c
      let u : Url := { scheme, username, password, host := some host, port,
                       segments := pathAfterAuthority k path }
      return u.withEnd k tail

/-! ### Local files -/

/-- The URL of a local file, given its path and what follows. -/
def fileUrl (host : String) (cs : List Char) : Url :=
  let (path, tail) := cs.span fun c => !endsPath c
  let p := filePath (match path with
    | c :: path => if isSlash c then path else c :: path
    | [] => [])
  let u : Url := { scheme := "file", host := some (if p.onDrive then "" else host),
                   segments := p.segments }
  u.withEnd .file tail

/-- Reads the URL of a local file after its scheme. -/
def readFile (cs : List Char) : Except Fault Url := do
  match cs with
  | c :: d :: rest =>
    if isSlash c && isSlash d then
      let (name, after) := rest.span fun c => !endsAuthority .file c
      if isDrive (String.ofList name) then return fileUrl "" rest
      else
        let host ← if name.isEmpty then .ok "" else domainHost name
        return fileUrl (if host = "localhost" then "" else host) after
    else return fileUrl "" cs
  | _ => return fileUrl "" cs

/-! ### URLs and references -/

/-- Reads a URL whose scheme has no rules of its own, after the scheme. -/
def readGeneral (scheme : String) (cs : List Char) : Except Fault Url :=
  match cs with
  | '/' :: '/' :: cs => readAuthority scheme cs
  | '/' :: cs =>
    let (path, tail) := cs.span fun c => !endsPath c
    let u : Url := { scheme, segments := resolvePath .general [] path }
    .ok (u.withEnd .general tail)
  | _ =>
    let (path, tail) := cs.span fun c => !endsPath c
    let (query, fragment) := queryAndFragment .general tail
    .error (.rootless (scheme ++ ":" ++ String.ofList (percentEncode isControl path) ++
      endText query fragment))

/-- Reads a URL after its scheme. -/
def readAfterScheme (scheme : String) (cs : List Char) : Except Fault Url :=
  match Kind.ofScheme scheme with
  | .network => readAuthority scheme (cs.dropWhile isSlash)
  | .file => readFile cs
  | .general => readGeneral scheme cs

/-- Reads a URL. -/
def parse (s : String) : Except Fault Url :=
  match splitScheme? (significant s) with
  | some (scheme, rest) => readAfterScheme scheme rest
  | none => .error .relative

/-- Reads a reference without scheme from a URL for servers. -/
def joinRelative (base : Url) (cs : List Char) : Except Fault Url :=
  let k := Kind.ofScheme base.scheme
  let withPath (start : List String) (cs : List Char) : Url :=
    let (path, tail) := cs.span fun c => !endsPath c
    ({ base with segments := resolvePath k start path } : Url).withEnd k tail
  match cs with
  | [] => .ok base.withoutFragment
  | '?' :: _ => .ok (base.withEnd k cs)
  | '#' :: _ => .ok { base with fragment := (base.withEnd k cs).fragment }
  | '/' :: '/' :: cs => readAuthority base.scheme cs
  | c :: d :: rest =>
    if isSlash c && isSlash d then readAuthority base.scheme (rest.dropWhile isSlash)
    else if isSlash c then .ok (withPath [] (d :: rest))
    else .ok (withPath base.segments.dropLast cs)
  | [c] =>
    if isSlash c then .ok (withPath [] []) else .ok (withPath base.segments.dropLast cs)

/-- Reads a reference from a URL for servers.  A reference that repeats the scheme of the URL
without two slashes after it counts as one without scheme. -/
def join (base : Url) (reference : String) : Except Fault Url :=
  let cs := significant reference
  match splitScheme? cs with
  | some (scheme, rest) =>
    if scheme = base.scheme ∧ (rest.takeWhile isSlash).length < 2 then joinRelative base rest
    else readAfterScheme scheme rest
  | none => joinRelative base cs

end Url

end RemoteFlags
