import RemoteFlags.Flag.Reason
import RemoteFlags.Http.Message
import RemoteFlags.Time.Instant

/-!
# Why a flag has no value

Every failure of a provider is a `FlagError`.  Providers of other kinds than the remote one raise
such errors with texts of their own.

## Main definitions

* `FlagError`, `FlagError.message`, `FlagError.code`: failures, in words and as error codes.
-/

namespace RemoteFlags

/-- Why a flag has no value. -/
inductive FlagError where
  /-- The exchange with the server failed. -/
  | http (fault : Http.Fault)
  /-- The cache did not take in an answer. -/
  | cache (text : String)
  /-- The server does not accept who is asking. -/
  | authentication (text : String)
  /-- The server answered in an unexpected way. -/
  | api (text : String)
  /-- The answer could not be read. -/
  | parse (text : String)
  /-- The server could not evaluate the flag. -/
  | evaluation (code : ErrorCode) (details : String)
  /-- The value is of another type than the one asked for. -/
  | typeMismatch (text : String)
  /-- The server wants to be left alone for a time. -/
  | rateLimited (resume : Instant)
  /-- No provider is ready to answer. -/
  | notReady
  /-- The settings are not acceptable. -/
  | configuration (text : String)
deriving DecidableEq, Repr

namespace FlagError

/-- The failure in words. -/
def message : FlagError → String
  | .http fault => "HTTP error: " ++ fault.message
  | .cache text => "Cache error: " ++ text
  | .authentication text => "Authentication failed: " ++ text
  | .api text => "API error: " ++ text
  | .parse text => "Parse error: " ++ text
  | .evaluation code details => code.text ++ ": " ++ details
  | .typeMismatch text => "Type mismatch: " ++ text
  | .rateLimited resume => "Rate limited until " ++ resume.text
  | .notReady => "Provider not ready"
  | .configuration text => "Invalid configuration: " ++ text

/-- The error code of a failure. -/
def code : FlagError → ErrorCode
  | .evaluation code _ => code
  | .parse _ => .parseError
  | .typeMismatch _ => .typeMismatch
  | .notReady => .providerNotReady
  | _ => .general

end FlagError

end RemoteFlags
