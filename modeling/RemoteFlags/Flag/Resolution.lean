import RemoteFlags.Flag.Entry
import RemoteFlags.Flag.Value

/-!
# Resolutions and evaluation details

A provider resolves a flag (`Resolution`), before anything is known about the type that the caller
wants.  A typed evaluation gives the caller's default when something goes wrong, and says what went
wrong (`Details`).

## Main definitions

* `Resolution`, `Success.resolution`: a resolved flag.
* `Details`, `Details.isError`: the outcome of a typed evaluation.
-/

namespace RemoteFlags

/-- A resolved flag. -/
structure Resolution where
  /-- The value. -/
  value : FlagValue
  /-- The name of the value. -/
  variant : Option String
  /-- Why the flag has this value. -/
  reason : Reason
  /-- What else is known about the flag. -/
  metadata : SortedMap Json.Value

/-- The resolution that a server's answer stands for. -/
def Success.resolution (s : Success) : Resolution where
  value := .ofJson s.value
  variant := s.variant
  reason := s.reason.getD .unknown
  metadata := s.metadata.getD ∅

/-- The outcome of a typed evaluation.  When it failed, the value is the caller's default. -/
structure Details where
  /-- The key of the flag. -/
  key : String
  /-- The value. -/
  value : FlagValue
  /-- The name of the value. -/
  variant : Option String
  /-- Why the flag has this value. -/
  reason : Reason
  /-- How the evaluation failed, if it did. -/
  code : Option ErrorCode
  /-- What went wrong, in words. -/
  message : Option String
  /-- What else is known about the flag. -/
  metadata : SortedMap Json.Value

/-- Whether the evaluation failed. -/
def Details.isError (d : Details) : Bool := d.code.isSome

end RemoteFlags
