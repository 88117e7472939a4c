import RemoteFlags.Http.Message
import RemoteFlags.Time.MailDate

/-!
# Pauses

A server that is asked too often may want to be left alone for a time.  It says for how long in
seconds, or until when as a date; when it says neither, the pause lasts ten seconds.

## Main definitions

* `resumeInstant value now`: the end of a pause that begins at `now`.
* `pausedUntil? pause now`: whether a pause is still on.
-/

namespace RemoteFlags

namespace Pause

/-- How long a pause lasts when the server does not say it, in seconds. -/
def defaultLength : Int := 10

/-- A number of seconds, which fits a word of 64 bits. -/
def seconds? (s : String) : Option Int :=
  (Text.integer? s).bind fun n => if -2 ^ 63 ≤ n ∧ n < 2 ^ 63 then some n else none

/-- The end of the pause that a server asks for: some seconds from now, none if they are negative,
or a date. -/
def requestedEnd? (value : String) (now : Instant) : Option Instant :=
  let value := Text.trim value
  match seconds? value with
  | some n => now.after? (max n 0)
  | none => Instant.ofMailDate? value

/-- The end of a pause that begins now, given what the server says about it. -/
def resumeInstant (value : Option String) (now : Instant) : Instant :=
  (value.bind fun v => requestedEnd? v now).getD (now.plus defaultLength)

/-- The end of a pause that is still on. -/
def pausedUntil? (pause : Option Instant) (now : Instant) : Option Instant :=
  pause.filter fun t => decide (now < t)

end Pause

end RemoteFlags
