import RemoteFlags.Http.MediaType
import RemoteFlags.Http.Status
import RemoteFlags.Url.Parse

/-!
# Requests and responses

## Main definitions

* `Request`: what is sent.
* `Answer`, `Response`: what a server sends back, and what a client makes of it.
* `Fault`: how an exchange fails.
* `Response.text`: the body as a text.
-/

namespace RemoteFlags.Http

/-- What a request asks for. -/
inductive Method where
  /-- To send a representation. -/
  | get
  /-- To take in what the request carries. -/
  | post
deriving DecidableEq, Repr

/-- The name of a method. -/
def Method.text : Method → String
  | .get => "GET"
  | .post => "POST"

/-- A request. -/
structure Request where
  /-- What it asks for. -/
  method : Method
  /-- Where it goes. -/
  url : Url
  /-- Its header fields, in the order of their names. -/
  headers : List (String × String)
  /-- Its body. -/
  body : String
deriving DecidableEq, Repr

/-- Where a request goes, as the server sees it. -/
def Request.target (r : Request) : String := r.url.withoutUserInfo.withoutFragment.text

/-- What a server sends back. -/
structure Answer where
  /-- The status code. -/
  status : Nat
  /-- The header fields, with names in lower case. -/
  headers : List (String × String) := []
  /-- The body, as far as it is sent. -/
  body : List UInt8 := []
  /-- Whether the connection ends before the whole body is sent. -/
  truncated : Bool := false
deriving DecidableEq, Repr

/-- How an exchange fails. -/
inductive Fault where
  /-- The request cannot be put together. -/
  | building (url : String)
  /-- The request gets no answer. -/
  | sending (url : String)
  /-- The answers redirect too often. -/
  | following (url : String)
  /-- The body of the answer does not arrive. -/
  | decoding (url : String)
deriving DecidableEq, Repr

/-- The fault in words. -/
def Fault.message : Fault → String
  | .building url => "builder error for url (" ++ url ++ ")"
  | .sending url => "error sending request for url (" ++ url ++ ")"
  | .following url => "error following redirect for url (" ++ url ++ ")"
  | .decoding url => "error decoding response body for url (" ++ url ++ ")"

/-- The URL as it is shown in faults. -/
def shown (u : Url) : String := u.withoutUserInfo.text

/-- An answer together with the place that it comes from. -/
structure Response where
  /-- Where the answer comes from. -/
  url : Url
  /-- The answer. -/
  answer : Answer
deriving DecidableEq, Repr

namespace Response

/-- The status code. -/
def status (r : Response) : Nat := r.answer.status

/-- The value of the first header field with a name. -/
def header? (r : Response) (name : String) : Option String :=
  (r.answer.headers.lookup name).map fun v => String.ofList (trimField v.toList)

/-- The value of a header field as a text, if it can be read. -/
def headerText? (r : Response) (name : String) : Option String := (r.header? name).bind readable?

/-- Whether answers with the status carry no body, whatever the server sends. -/
def isBodiless (status : Nat) : Bool := status == 204 || status == 304

/-- The body as a text, in the encoding that the media type names if it is one of `Text.Charset`. -/
def text (r : Response) : Except Fault String :=
  if isBodiless r.status then .ok ""
  else if r.answer.truncated then .error (.decoding (shown r.url))
  else .ok ((charset (r.header? "content-type")).decode r.answer.body)

end Response

end RemoteFlags.Http
