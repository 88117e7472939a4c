import RemoteFlags.Context
import RemoteFlags.Provider.Settings
import RemoteFlags.Text.Base64

/-!
# Requests for flags

All requests have the context as their body; the place tells which flag is asked for, or that all
flags are.

## Main definitions

* `Remote.endpoint`: where requests go.
* `Remote.basicToken?`: what tells the server who is asking, if the URL does.
* `Remote.request`: the request for a place and a context.
-/

namespace RemoteFlags

namespace Remote

/-- The segments below the base that lead to the flags. -/
def flagsPath : List String := ["ofrep", "v1", "evaluate", "flags"]

/-- Where requests go: below the base, to the flag with a key or to all flags. -/
def endpoint (r : Remote) (key : Option String) : Url :=
  let k := Url.Kind.ofScheme r.base.scheme
  let segments := (flagsPath ++ key.toList).foldl (Url.pushSegment k)
    (Url.popEmptySegment r.base.segments)
  { r.base with segments := segments }

/-- The password of a URL, unless there is none or it is not well formed. -/
def password? (u : Url) : Option String :=
  if u.password = "" then none else Text.ofUtf8? (Url.decodeText u.password)

/-- User name and password of a URL, as a header field tells them.  A user name that is not well
formed takes the password with it. -/
def basicToken? (u : Url) : Option String := do
  let name ← Text.ofUtf8? (Url.decodeText u.username)
  let password := password? u
  if name = "" ∧ password = none then none
  else some ("Basic " ++ Text.base64 (Text.utf8 (name ++ ":" ++ password.getD "")))

/-- A URL that names no user tells nothing. -/
theorem basicToken?_of_no_user {u : Url} (hname : u.username = "") (hpassword : u.password = "") :
    basicToken? u = none := by
  have hempty : Text.ofUtf8? (Url.decodeText "") = some "" := by decide
  simp [basicToken?, password?, hname, hpassword, hempty]

/-- The header fields of a request: those of the provider, user name and password if no other field
tells who is asking, and the mark of the answer that is known already. -/
def requestFields (r : Remote) (u : Url) (etag : Option String) : List (String × String) :=
  let own := match basicToken? u, r.headers.get? "authorization" with
    | some token, none => r.headers.insert "authorization" token
    | _, _ => r.headers
  match etag with
  | some mark => Http.addField "if-none-match" mark own.entries
  | none => own.entries

/-- The request for the values that flags have in a context. -/
def request (r : Remote) (u : Url) (c : Context) (etag : Option String) : Http.Request where
  method := .post
  url := u.withoutUserInfo
  headers := r.requestFields u etag
  body := c.requestBody

end Remote

end RemoteFlags
