import RemoteFlags.Url.Address
import RemoteFlags.Url.Basic
import RemoteFlags.Url.Domain

/-!
# Hosts

The host of a URL in its normal form.  Hosts of the special schemes are domain names or addresses;
other hosts are taken as they are, with few characters forbidden.

## Main definitions

* `domainHost`: the host of a URL with a special scheme.
* `plainHost`: the host of any other URL.
-/

namespace RemoteFlags

namespace Url

/-- An address between square brackets, given the characters after the opening one. -/
def bracketedHost (cs : List Char) : Except Fault String :=
  match cs.reverse with
  | ']' :: inner =>
    match ipv6? inner.reverse with
    | some gs => .ok ("[" ++ ipv6Text gs ++ "]")
    | none => .error .invalidIpv6
  | _ => .error .invalidIpv6

/-- Whether a domain name may not hold a character. -/
def isForbiddenInDomain (c : Char) : Bool :=
  isControl c ||
    [' ', '#', '%', '/', ':', '<', '>', '?', '@', '[', '\\', ']', '^', '|'].contains c

/-- The host of a URL with a special scheme: encoded characters are decoded, the name is written in
ASCII, and a name that ends in a number has to be an address. -/
def domainHost (cs : List Char) : Except Fault String :=
  match cs with
  | '[' :: cs => bracketedHost cs
  | cs =>
    match Domain.name? (Text.readUtf8 none (percentDecode (Text.utf8Chars cs))) with
    | none => .error .invalidName
    | some name =>
      if name.any isForbiddenInDomain then .error .invalidName
      else if name.isEmpty then .error .emptyHost
      else if endsInNumber name then
        match ipv4? name with
        | some n => .ok (ipv4Text n)
        | none => .error .invalidIpv4
      else .ok (String.ofList name)

/-- Whether the host of a URL with any other scheme may not hold a character. -/
def isForbiddenInHost (c : Char) : Bool :=
  ['\x00', '\t', '\n', '\r', ' ', '#', '/', ':', '<', '>', '?', '@', '[', '\\', ']', '^',
    '|'].contains c

/-- The host of a URL with any other scheme. -/
def plainHost (cs : List Char) : Except Fault String :=
  match cs with
  | '[' :: cs => bracketedHost cs
  | cs =>
    if cs.any isForbiddenInHost then .error .invalidHostCharacter
    else .ok (String.ofList (percentEncode isControl cs))

end Url

end RemoteFlags
