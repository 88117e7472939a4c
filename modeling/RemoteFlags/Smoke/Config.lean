import RemoteFlags.Flag.Error
import RemoteFlags.Provider.Settings

/-!
# Configuration of a run

A run is configured by variables.  A variable that holds nothing but white space counts as absent.

## Main definitions

* `Config`, `Config.fromLookup`: the configuration, and how it is read from variables.
* `Config.settings`: the settings of the provider for a run.
-/

namespace RemoteFlags

namespace Smoke

/-- The configuration of a run. -/
structure Config where
  /-- Where the server is. -/
  baseUrl : String := "http://localhost:8080"
  /-- What shows the server who is asking. -/
  token : Option String := none
  /-- How long an answer is waited for, in milliseconds. -/
  timeout : Option Nat := none
deriving DecidableEq, Repr

namespace Config

/-- The variable that holds the place of the server. -/
def baseUrlName : String := "OFREP_BASE_URL"

/-- The variable that holds the token. -/
def tokenName : String := "OFREP_TOKEN"

/-- The variable that holds the time for an answer. -/
def timeoutName : String := "OFREP_TIMEOUT_MS"

/-- The failure to read the time for an answer. -/
def badTimeout (raw : String) : FlagError :=
  .configuration
    (timeoutName ++ " must be a positive number of milliseconds, got '" ++ raw ++ "'")

/-- A positive number that fits a word of 64 bits, with an optional plus sign and white space around
it. -/
def milliseconds? (raw : String) : Option Nat :=
  (Text.signedNatural? (Text.trim raw)).filter fun n => 0 < n && n < 2 ^ 64

/-- A variable, unless it is blank. -/
def nonBlank (lookup : String → Option String) (name : String) : Option String :=
  (lookup name).filter fun v => !Text.isBlankText v

/-- The configuration that variables give. -/
def fromLookup (lookup : String → Option String) : Except FlagError Config :=
  let config (timeout : Option Nat) : Config :=
    ⟨(nonBlank lookup baseUrlName).getD ({} : Config).baseUrl, nonBlank lookup tokenName, timeout⟩
  match nonBlank lookup timeoutName with
  | none => .ok (config none)
  | some raw =>
    match milliseconds? raw with
    | some n => .ok (config (some n))
    | none => .error (badTimeout raw)

/-- The settings of the provider for a run. -/
def settings (c : Config) : Settings :=
  let s := ({} : Settings).withBaseUrl c.baseUrl
  let s := match c.token with
    | some token => s.withToken token
    | none => s
  match c.timeout with
  | some n => s.withTimeout n
  | none => s

end Config

end Smoke

end RemoteFlags
