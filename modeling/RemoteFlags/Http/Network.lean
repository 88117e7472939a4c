import RemoteFlags.Http.Message

/-!
# The network

What happens to requests is fixed beforehand: the network holds what becomes of the first one, the
second one and so on, whether or not their connections are encrypted, and keeps the requests that
arrived.  Sending is then a function of the network.

## Main definitions

* `Reply`: what becomes of a request.
* `Network`, `Network.exchange`: the network, and one request on it.
* `Network.send`: a request with the redirections that follow it.
-/

namespace RemoteFlags.Http

/-- What becomes of a request. -/
inductive Reply where
  /-- It does not arrive. -/
  | lost
  /-- It arrives, and the connection is closed. -/
  | dropped
  /-- It arrives, and nothing comes back in time. -/
  | hung
  /-- It is answered. -/
  | answered (a : Answer)
deriving DecidableEq, Repr

/-- The network, with everything that will happen on it. -/
structure Network where
  /-- What becomes of the requests. -/
  reply : Nat → Reply
  /-- How many requests were handed over. -/
  count : Nat := 0
  /-- The requests that arrived, in their order. -/
  arrived : List Request := []

namespace Network

/-- The network on which nothing arrives. -/
def offline : Network where
  reply _ := .lost

/-- Hands over one request. -/
def exchange (n : Network) (r : Request) : Reply × Network :=
  match n.reply n.count with
  | .lost => (.lost, { n with count := n.count + 1 })
  | reply => (reply, { n with count := n.count + 1, arrived := n.arrived ++ [r] })

/-! ### One request -/

/-- The longest URL of a request, in bytes. -/
def maxTargetLength : Nat := 65534

/-- Whether a request can name the host and the URL is short enough. -/
def isTarget (u : Url) : Bool :=
  u.text.utf8ByteSize ≤ maxTargetLength &&
    (u.host.getD "").toList.all fun c => !(['"', '`', '\x7b', '\x7d'].contains c)

/-- Whether the scheme is one for requests. -/
def isWebScheme (scheme : String) : Bool := scheme == "http" || scheme == "https"

/-- One request and its answer. -/
def dispatch (n : Network) (r : Request) : Except Fault Response × Network :=
  if !(isWebScheme r.url.scheme && isTarget r.url) then (.error (.building (shown r.url)), n)
  else
    match n.exchange r with
    | (.answered a, n) => (.ok ⟨r.url, a⟩, n)
    | (_, n) => (.error (.sending (shown r.url)), n)

/-! ### Redirections -/

/-- Whether a status sends the client to another place. -/
def isRedirect (status : Nat) : Bool := [301, 302, 303, 307, 308].contains status

/-- Whether a redirection turns the request into one that only asks for a representation. -/
def turnsIntoGet (status : Nat) : Bool := [301, 302, 303].contains status

/-- The header fields that describe a body. -/
def bodyFields : List String :=
  ["transfer-encoding", "content-encoding", "content-type", "content-length"]

/-- The header fields that are not for other servers. -/
def privateFields : List String :=
  ["authorization", "cookie", "cookie2", "proxy-authorization", "www-authenticate"]

/-- The request after a redirection.  It names the place that it comes from, unless that was reached
over an encrypted connection and the new one is not. -/
def redirected (r : Request) (status : Nat) (place : Url) : Request :=
  let r := if turnsIntoGet status then
      { r with method := .get, body := "", headers := dropFields bodyFields r.headers }
    else r
  let headers := if place.scheme = "http" ∧ r.url.scheme = "https" then r.headers
    else setField "referer" r.url.withoutUserInfo.withoutFragment.text r.headers
  let headers := if place.sameOrigin r.url then headers else dropFields privateFields headers
  { r with url := place, headers := headers }

/-- The request that a response asks for: none when it is no redirection or names no place, and a
fault when the place is no URL for requests. -/
def next? (r : Request) (res : Response) : Option (Except Fault Request) :=
  if isRedirect res.status then
    match (res.header? "location").map (Url.join r.url) with
    | some (.ok place) =>
      if isTarget place then some (.ok (redirected r res.status place)) else none
    | some (.error (.rootless text)) => some (.error (.building text))
    | _ => none
  else none

/-- How many redirections are followed. -/
def maxRedirects : Nat := 10

/-- Sends a request, with at most `left` redirections after it. -/
def sendFollowing : Nat → Network → Request → Except Fault Response × Network
  | left, n, r =>
    match n.dispatch r with
    | (.error f, n) => (.error f, n)
    | (.ok res, n) =>
      match next? r res, left with
      | none, _ => (.ok res, n)
      | some _, 0 => (.error (.following (shown r.url)), n)
      | some (.error f), _ + 1 => (.error f, n)
      | some (.ok r), left + 1 => sendFollowing left n r

/-- Sends a request and follows redirections. -/
def send (n : Network) (r : Request) : Except Fault Response × Network :=
  sendFollowing maxRedirects n r

end Network

end RemoteFlags.Http
