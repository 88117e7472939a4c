import RemoteFlags.Smoke.Command

/-!
# The program

Reads the variables of the environment, runs the command, and prints what comes of it.  The program
opens no connections: its network is the one on which nothing arrives, so a run tells that the
server cannot be reached, and its clock stands still.

## Main definitions

* `main`: the program.
-/

namespace RemoteFlags.Smoke

/-- The variables that the command reads. -/
def variableNames : List String := [Config.baseUrlName, Config.tokenName, Config.timeoutName]

/-- The world of the program: nothing arrives, and no time passes. -/
def quietWorld : World := ⟨Http.Network.offline, { reading := fun _ => ⟨0, 0⟩ }⟩

end RemoteFlags.Smoke

open RemoteFlags.Smoke

/-- Runs the command with the variables of the environment. -/
def main : IO UInt32 := do
  let values ← variableNames.mapM fun name => do
    return (name, ← IO.getEnv name)
  let result := command (fun name => (values.lookup name).join) quietWorld
  (← IO.getStdout).putStr result.output
  (← IO.getStderr).putStr result.errors
  return UInt32.ofNat result.exitCode
