import RemoteFlags.Smoke.Run

/-!
# The command

A run as a command: it is configured by variables, writes the lines of the checks that pass, and
tells how it failed.

## Main definitions

* `command`: the command in a world.
-/

namespace RemoteFlags

namespace Smoke

/-- What comes of the command. -/
structure CommandResult where
  /-- The exit code. -/
  exitCode : Nat
  /-- The lines of the checks that passed. -/
  output : String
  /-- How the run failed, or nothing. -/
  errors : String
  /-- The world afterwards. -/
  world : World

/-- How a failure is told. -/
def failLine (message : String) : String := "FAIL " ++ message ++ "\n"

/-- Runs the default checks, configured by variables. -/
def command (lookup : String → Option String) (w : World) : CommandResult :=
  match Config.fromLookup lookup with
  | .error e => ⟨1, "", failLine e.message, w⟩
  | .ok config =>
    let report := ({ providers := { world := w } } : Session).run config {}
    let world := report.state.providers.world
    match report.result with
    | .ok _ => ⟨0, report.sink.text, "", world⟩
    | .error f => ⟨1, report.sink.text, failLine f.message, world⟩

end Smoke

end RemoteFlags
