/-!
# Reasons and error codes

A server says why a flag has its value, and with which code it failed to evaluate one.  Both travel
as texts.

## Main definitions

* `Reason`, `Reason.ofText`, `Reason.text`: reasons; an unknown text is kept.
* `ErrorCode`, `ErrorCode.ofText`, `ErrorCode.text`: error codes; an unknown text is the general
  code.

## Main statements

* `Reason.text_ofText`: no reason loses its text.
-/

namespace RemoteFlags

/-- Why a flag has its value. -/
inductive Reason where
  /-- The value does not depend on the context. -/
  | static
  /-- The configured default. -/
  | default
  /-- A targeting rule matched. -/
  | targetingMatch
  /-- Assigned at random. -/
  | split
  /-- Answered from a cache. -/
  | cached
  /-- The flag is disabled. -/
  | disabled
  /-- No reason is known. -/
  | unknown
  /-- The evaluation failed. -/
  | error
  /-- A reason outside the common ones. -/
  | other (text : String)
deriving DecidableEq, Repr

namespace Reason

/-- The reason as a text. -/
def text : Reason → String
  | .static => "STATIC"
  | .default => "DEFAULT"
  | .targetingMatch => "TARGETING_MATCH"
  | .split => "SPLIT"
  | .cached => "CACHED"
  | .disabled => "DISABLED"
  | .unknown => "UNKNOWN"
  | .error => "ERROR"
  | .other s => s

/-- The reason that a text names. -/
def ofText (s : String) : Reason :=
  if s = "STATIC" then .static
  else if s = "DEFAULT" then .default
  else if s = "TARGETING_MATCH" then .targetingMatch
  else if s = "SPLIT" then .split
  else if s = "CACHED" then .cached
  else if s = "DISABLED" then .disabled
  else if s = "UNKNOWN" then .unknown
  else if s = "ERROR" then .error
  else .other s

/-- Whether the reason is outside the common ones. -/
def isOther : Reason → Bool
  | .other _ => true
  | _ => false

@[simp] theorem text_ofText (s : String) : (ofText s).text = s := by
  unfold ofText
  repeat' split
  all_goals simp_all [text]

end Reason

/-- How an evaluation failed. -/
inductive ErrorCode where
  /-- No provider is ready to answer. -/
  | providerNotReady
  /-- There is no flag with the key. -/
  | flagNotFound
  /-- The answer could not be read. -/
  | parseError
  /-- The flag's value is of another type than the one asked for. -/
  | typeMismatch
  /-- The evaluation needs a targeting key. -/
  | targetingKeyMissing
  /-- The context is not acceptable. -/
  | invalidContext
  /-- Any other failure. -/
  | general
deriving DecidableEq, Repr

namespace ErrorCode

/-- The code as a text. -/
def text : ErrorCode → String
  | .providerNotReady => "PROVIDER_NOT_READY"
  | .flagNotFound => "FLAG_NOT_FOUND"
  | .parseError => "PARSE_ERROR"
  | .typeMismatch => "TYPE_MISMATCH"
  | .targetingKeyMissing => "TARGETING_KEY_MISSING"
  | .invalidContext => "INVALID_CONTEXT"
  | .general => "GENERAL"

/-- The code that a text names; every unknown text names the general one. -/
def ofText (s : String) : ErrorCode :=
  if s = "PROVIDER_NOT_READY" then .providerNotReady
  else if s = "FLAG_NOT_FOUND" then .flagNotFound
  else if s = "PARSE_ERROR" then .parseError
  else if s = "TYPE_MISMATCH" then .typeMismatch
  else if s = "TARGETING_KEY_MISSING" then .targetingKeyMissing
  else if s = "INVALID_CONTEXT" then .invalidContext
  else .general

@[simp] theorem ofText_text (c : ErrorCode) : ofText c.text = c := by
  cases c <;> decide

end ErrorCode

end RemoteFlags
