import RemoteFlags.Context
import RemoteFlags.Flag.Value

/-!
# Checks

A check names a flag, the value that a caller would fall back to, and the value that the server is
expected to give.

## Main definitions

* `Check`: a check, for a value of any type.
* `defaultChecks`, `defaultContext`: the checks of a run without choices.
-/

namespace RemoteFlags

namespace Smoke

/-- A check of one flag. -/
structure Check where
  /-- The key of the flag. -/
  key : String
  /-- The value that the evaluation falls back to; its type is the type that is asked for. -/
  default : FlagValue
  /-- The value that is expected. -/
  expected : FlagValue

namespace Check

/-- A check of a truth value. -/
def boolean (key : String) (default expected : Bool) : Check := ⟨key, .bool default, .bool expected⟩

/-- A check of an integer. -/
def integer (key : String) (default expected : Int) : Check := ⟨key, .int default, .int expected⟩

/-- A check of a text. -/
def string (key : String) (default expected : String) : Check :=
  ⟨key, .string default, .string expected⟩

/-- Whether two checks are equal, with values compared as values. -/
def same (a b : Check) : Bool :=
  a.key == b.key && a.default.same b.default && a.expected.same b.expected

end Check

/-- The checks of a run without choices. -/
def defaultChecks : List Check :=
  [.boolean "FF-feature-y" false true, .integer "FF-api-timeout" 2000 5000,
    .string "FF-log-level" "info" "debug"]

/-- The context of a run without choices. -/
def defaultContext : Context := (∅ : Context).withAttribute "countryCode" (.string "nl")

end Smoke

end RemoteFlags
