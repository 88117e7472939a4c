import RemoteFlags.Url.Percent

/-!
# URLs

A URL in its normal form, with its path as a list of segments.  URLs whose path has no segments
(such as `mailto:x`) are refused when they are read.

## Main definitions

* `Url`, `Url.text`: URLs, and how they are written.
* `Url.Fault`: why a text is no URL.
* `Url.Kind`, `Url.defaultPort?`: the schemes with rules of their own.
* `Url.withoutUserInfo`, `Url.sameOrigin`: comparing and showing URLs.
-/

namespace RemoteFlags

/-- A URL. -/
structure Url where
  /-- The scheme, in lower case. -/
  scheme : String
  /-- The user name, encoded; empty if there is none. -/
  username : String := ""
  /-- The password, encoded; empty if there is none. -/
  password : String := ""
  /-- The host, which may be empty. -/
  host : Option String := none
  /-- The port, unless it is the usual one of the scheme. -/
  port : Option Nat := none
  /-- The segments of the path, encoded. -/
  segments : List String := []
  /-- The query, encoded. -/
  query : Option String := none
  /-- The fragment, encoded. -/
  fragment : Option String := none
deriving DecidableEq, Repr

namespace Url

/-- Why a text is no URL with segments. -/
inductive Fault where
  /-- The text has no scheme. -/
  | relative
  /-- The host is missing. -/
  | emptyHost
  /-- The port is no number below 65536. -/
  | invalidPort
  /-- The host is a malformed address of four bytes. -/
  | invalidIpv4
  /-- The host is a malformed address of eight groups. -/
  | invalidIpv6
  /-- The host is no domain name. -/
  | invalidName
  /-- The host of a URL whose scheme has no rules of its own holds a forbidden character. -/
  | invalidHostCharacter
  /-- The text is a URL whose path has no segments. -/
  | rootless (text : String)
deriving DecidableEq, Repr

/-- The fault in words. -/
def Fault.message : Fault → String
  | .relative => "relative URL without a base"
  | .emptyHost => "empty host"
  | .invalidPort => "invalid port number"
  | .invalidIpv4 => "invalid IPv4 address"
  | .invalidIpv6 => "invalid IPv6 address"
  | .invalidName => "invalid international domain name"
  | .invalidHostCharacter => "invalid domain character"
  | .rootless text => text ++ " cannot be a base"

/-! ### Schemes -/

/-- The port that a scheme uses when none is given. -/
def defaultPort? (scheme : String) : Option Nat :=
  if scheme = "http" ∨ scheme = "ws" then some 80
  else if scheme = "https" ∨ scheme = "wss" then some 443
  else if scheme = "ftp" then some 21
  else none

/-- The schemes that have rules of their own. -/
inductive Kind where
  /-- A scheme for servers on a network. -/
  | network
  /-- The scheme of local files. -/
  | file
  /-- Any other scheme. -/
  | general
deriving DecidableEq, Repr

/-- The kind of a scheme. -/
def Kind.ofScheme (scheme : String) : Kind :=
  if scheme = "file" then .file
  else if (defaultPort? scheme).isSome then .network
  else .general

/-- Whether a scheme has rules of its own.  In its URLs a backslash counts as a slash, and the path
has at least one segment. -/
def Kind.isSpecial (k : Kind) : Bool := k != .general

/-! ### Writing -/

/-- The user name and password with the sign after them. -/
def userInfoText (u : Url) : String :=
  if u.username = "" ∧ u.password = "" then ""
  else u.username ++ (if u.password = "" then "" else ":" ++ u.password) ++ "@"

/-- The host with what stands before and after it. -/
def authorityText (u : Url) : String :=
  match u.host with
  | none => ""
  | some h =>
    "//" ++ u.userInfoText ++ h ++ (match u.port with | some p => ":" ++ toString p | none => "")

/-- The path: a slash before every segment. -/
def pathText (segments : List String) : String :=
  String.join (segments.map fun s => "/" ++ s)

/-- Without a host, a path that begins with two slashes is marked so that it does not read as one.
-/
def pathMark (u : Url) : String :=
  match u.host, u.segments with
  | none, "" :: _ :: _ => "/."
  | _, _ => ""

/-- Query and fragment, each after its sign. -/
def endText (query fragment : Option String) : String :=
  (match query with | some q => "?" ++ q | none => "") ++
    (match fragment with | some f => "#" ++ f | none => "")

/-- The URL as a text. -/
def text (u : Url) : String :=
  u.scheme ++ ":" ++ u.authorityText ++ u.pathMark ++ pathText u.segments ++
    endText u.query u.fragment

/-- The URL without user name and password. -/
def withoutUserInfo (u : Url) : Url := { u with username := "", password := "" }

/-- The URL without fragment. -/
def withoutFragment (u : Url) : Url := { u with fragment := none }

/-- The port that requests go to. -/
def effectivePort (u : Url) : Option Nat := u.port <|> defaultPort? u.scheme

/-- Whether two URLs name the same host and port. -/
def sameOrigin (u v : Url) : Bool := u.host == v.host && u.effectivePort == v.effectivePort

end Url

end RemoteFlags
