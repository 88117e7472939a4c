import RemoteFlags.Cache
import RemoteFlags.Flag.Error
import RemoteFlags.Result
import RemoteFlags.Url.Parse

/-!
# Settings of remote providers

Settings are collected one after the other, and checked together when the provider is built from
them.

## Main definitions

* `Settings`, with one function for every setting.
* `Remote`: a provider that asks a server.
* `Settings.build`: the provider with some settings, if they are acceptable.

## Main statements

* `Settings.build_eq_ok_iff`: what is built, and of which settings.
-/

namespace RemoteFlags

/-- How a remote provider asks the server. -/
inductive Mode where
  /-- By one request for each evaluation. -/
  | single
  /-- By one request for all flags of a context, whose answer is cached. -/
  | bulk
deriving DecidableEq, Repr

/-- The name of a mode. -/
def Mode.name : Mode → String
  | .single => "Single"
  | .bulk => "Bulk"

/-- Settings of a remote provider. -/
@[ext]
structure Settings where
  /-- Where the server is. -/
  baseUrl : String := "http://localhost:8080"
  /-- How often a request is repeated when it gets no answer. -/
  maxRetries : Nat := 0
  /-- How long the first repetition waits, in milliseconds. -/
  retryBackoff : Nat := 1000
  /-- How long an answer is waited for, in milliseconds. -/
  timeout : Nat := 10000
  /-- What shows the server who is asking. -/
  token : Option String := none
  /-- Header fields for every request, in the order in which they were given. -/
  headers : List (String × String) := []
  /-- How the server is asked. -/
  mode : Mode := .single
  /-- How long a bulk answer is used, in seconds. -/
  lifetime : Int := 60
deriving DecidableEq, Repr

/-- A provider that asks a server. -/
structure Remote where
  /-- Where the server is. -/
  base : Url
  /-- The header fields of every request. -/
  headers : SortedMap String
  /-- How the server is asked. -/
  mode : Mode
  /-- How long a bulk answer is used, in seconds. -/
  lifetime : Int
  /-- How often a request is repeated when it gets no answer. -/
  maxRetries : Nat
  /-- How long the first repetition waits, in milliseconds. -/
  retryBackoff : Nat
  /-- How long an answer is waited for, in milliseconds. -/
  timeout : Nat
deriving DecidableEq

/-- The provider in words. -/
def Remote.describe (r : Remote) : String :=
  "OfrepProvider \x7b base_url: " ++ r.base.text ++ ", mode: " ++ r.mode.name ++
    ", max_retries: " ++ toString r.maxRetries ++ ", cache_ttl: " ++ toString r.lifetime ++ " \x7d"

namespace Settings

/-! ### Collecting settings -/

/-- Sets where the server is. -/
def withBaseUrl (s : Settings) (url : String) : Settings := { s with baseUrl := url }

/-- Sets how often a request without answer is repeated. -/
def withMaxRetries (s : Settings) (n : Nat) : Settings := { s with maxRetries := n }

/-- Sets how long the first repetition waits, in milliseconds. -/
def withRetryBackoff (s : Settings) (n : Nat) : Settings := { s with retryBackoff := n }

/-- Sets how long an answer is waited for, in milliseconds. -/
def withTimeout (s : Settings) (n : Nat) : Settings := { s with timeout := n }

/-- Sets what shows the server who is asking. -/
def withToken (s : Settings) (token : String) : Settings := { s with token := some token }

/-- Adds a header field. -/
def withHeader (s : Settings) (name value : String) : Settings :=
  { s with headers := s.headers ++ [(name, value)] }

/-- Asks for all flags of a context at once. -/
def withBulkEvaluation (s : Settings) : Settings := { s with mode := .bulk }

/-- Sets how long a bulk answer is used, in seconds. -/
def withLifetime (s : Settings) (seconds : Int) : Settings := { s with lifetime := seconds }

/-! ### Building a provider -/

/-- Why settings are not acceptable. -/
inductive Fault where
  /-- The place of the server is no URL. -/
  | invalidUrl (text : String) (fault : Url.Fault)
  /-- The place of the server is a URL whose path has no segments. -/
  | rootlessUrl (text : String)
  /-- The deadline of a bulk answer could not be represented. -/
  | lifetimeOutOfRange (seconds : Int)
  /-- The token cannot be sent. -/
  | invalidToken
  /-- A header field has a name that cannot be sent. -/
  | invalidName (name : String)
  /-- A header field has a value that cannot be sent. -/
  | invalidValue (name : String)
deriving DecidableEq, Repr

/-- The fault in words. -/
def Fault.message : Fault → String
  | .invalidUrl text fault => "invalid base URL '" ++ text ++ "': " ++ fault.message
  | .rootlessUrl text => text ++ " cannot be used as a base URL"
  | .lifetimeOutOfRange seconds => (Cache.Fault.lifetimeOutOfRange seconds).message
  | .invalidToken => "token is not a valid header value"
  | .invalidName name => "invalid header name '" ++ name ++ "'"
  | .invalidValue name => "invalid value for header '" ++ name ++ "'"

/-- The place of the server as a URL. -/
def base (s : Settings) : Except Fault Url :=
  match Url.parse s.baseUrl with
  | .ok u => .ok u
  | .error (.rootless _) => .error (.rootlessUrl s.baseUrl)
  | .error f => .error (.invalidUrl s.baseUrl f)

/-- The header fields of every request, unless others are given. -/
def defaultFields : SortedMap String :=
  SortedMap.ofList
    [("user-agent", "ofrep-smoke/0.1.0"), ("accept", "application/json"),
      ("content-type", "application/json")]

/-- The fields with one that holds the token. -/
def putToken (fields : SortedMap String) : Option String → Except Fault (SortedMap String)
  | none => .ok fields
  | some token =>
    let value := "Bearer " ++ token
    if Http.isFieldValue value then .ok (fields.insert "authorization" value)
    else .error .invalidToken

/-- The fields with others in their places; names do not depend on case.  It is assumed that there
is room for all of them: the HTTP library has some for 24576 names. -/
def putFields (fields : SortedMap String) :
    List (String × String) → Except Fault (SortedMap String)
  | [] => .ok fields
  | (name, value) :: rest =>
    match Http.fieldName? name with
    | none => .error (.invalidName name)
    | some lower =>
      if Http.isFieldValue value then putFields (fields.insert lower value) rest
      else .error (.invalidValue lower)

/-- The provider with some settings, if they are acceptable at the time `now`. -/
def build (s : Settings) (now : Instant) : Except Fault Remote := do
  let base ← s.base
  if (now.after? s.lifetime).isNone then .error (.lifetimeOutOfRange s.lifetime)
  else
    let fields ← putToken defaultFields s.token
    let fields ← putFields fields s.headers
    return ⟨base, fields, s.mode, s.lifetime, s.maxRetries, s.retryBackoff, s.timeout⟩

theorem base_eq_ok_iff {s : Settings} {u : Url} : s.base = .ok u ↔ Url.parse s.baseUrl = .ok u := by
  unfold base
  cases Url.parse s.baseUrl with
  | ok v => exact ⟨fun h => Except.ok.inj h ▸ rfl, fun h => Except.ok.inj h ▸ rfl⟩
  | error f => cases f <;> exact ⟨nofun, nofun⟩

/-- What is built, and of which settings. -/
theorem build_eq_ok_iff {s : Settings} {now : Instant} {r : Remote} :
    s.build now = .ok r ↔
      Url.parse s.baseUrl = .ok r.base ∧ (now.after? s.lifetime).isSome = true ∧
        (∃ fields, putToken defaultFields s.token = .ok fields ∧
          putFields fields s.headers = .ok r.headers) ∧
        r.mode = s.mode ∧ r.lifetime = s.lifetime ∧ r.maxRetries = s.maxRetries ∧
        r.retryBackoff = s.retryBackoff ∧ r.timeout = s.timeout := by
  rw [build, bind_eq_ok_iff]
  simp only [base_eq_ok_iff]
  cases hlifetime : now.after? s.lifetime with
  | none => simp
  | some deadline =>
    simp only [Option.isNone_some, Bool.false_eq_true, if_false, bind_eq_ok_iff, Option.isSome_some,
      true_and, pure, Except.pure, Except.ok.injEq]
    constructor
    · rintro ⟨u, hu, fields, htoken, m, hfields, rfl⟩
      exact ⟨hu, ⟨fields, htoken, hfields⟩, rfl, rfl, rfl, rfl, rfl⟩
    · rintro ⟨hu, ⟨fields, htoken, hfields⟩, hmode, hlife, hretries, hbackoff, htimeout⟩
      exact ⟨r.base, hu, fields, htoken, r.headers, hfields, by
        rw [← hmode, ← hlife, ← hretries, ← hbackoff, ← htimeout]⟩

/-- Settings whose provider passes a test are acceptable. -/
theorem exists_build_of_test {s : Settings} {now : Instant} {test : Remote → Bool}
    (h : (s.build now).toOption.any test = true) : ∃ r, s.build now = .ok r ∧ test r = true := by
  cases hbuild : s.build now with
  | error f => simp [hbuild, Except.toOption] at h
  | ok r => exact ⟨r, rfl, by simpa [hbuild, Except.toOption] using h⟩

end Settings

end RemoteFlags
