import RemoteFlags.Provider.Remote

/-!
# Providers

A provider gives flags their values.  Before one is registered the idle provider stands in its
place; remote providers ask a server; other providers are functions of key and context.

## Main definitions

* `Provider`: the kinds of providers.
* `Providers`: the remote providers in use, with their states.
* `Providers.resolve`: the value of a flag.
-/

namespace RemoteFlags

/-- A source of flag values. -/
inductive Provider where
  /-- A provider that is never ready. -/
  | idle
  /-- A provider that computes its answers. -/
  | computed (name : String) (answer : String → Context → Except FlagError Resolution)
  /-- A remote provider, by its place among the remote providers in use. -/
  | remote (place : Nat)

instance : Inhabited Provider := ⟨.idle⟩

/-- The name of a provider. -/
def Provider.name : Provider → String
  | .idle => "No-op Provider"
  | .computed name _ => name
  | .remote _ => "OFREP Provider"

/-- The remote providers in use.  Whoever holds a provider shares its state with all others. -/
structure Providers where
  /-- The providers with their states, in the order in which they were built. -/
  remotes : List (Remote × Remote.State) := []
  /-- The world. -/
  world : World

namespace Providers

/-- Takes a newly built remote provider into use. -/
def add (ps : Providers) (r : Remote) (now : Instant) : Provider × Providers :=
  (.remote ps.remotes.length, { ps with remotes := ps.remotes ++ [(r, Remote.State.initial now)] })

/-- Builds a remote provider and takes it into use. -/
def build (ps : Providers) (s : Settings) : Except FlagError Provider × Providers :=
  let (now, w) := ps.world.now
  let ps := { ps with world := w }
  match s.build now with
  | .error f => (.error (.configuration f.message), ps)
  | .ok r =>
    let (now, w) := ps.world.now
    let (p, ps) := { ps with world := w }.add r now
    (.ok p, ps)

/-- Does an operation of a remote provider. -/
def perform {α : Type} (ps : Providers) (place : Nat)
    (operation : Remote → Remote.State → World → Remote.Outcome α) :
    Except FlagError α × Providers :=
  match ps.remotes[place]? with
  | none => (.error .notReady, ps)
  | some (r, st) =>
    let o := operation r st ps.world
    (o.result, ⟨ps.remotes.set place (r, o.state), o.world⟩)

/-- The value of a flag in a context. -/
def resolve (ps : Providers) (p : Provider) (key : String) (c : Context) :
    Except FlagError Resolution × Providers :=
  match p with
  | .idle => (.error .notReady, ps)
  | .computed _ answer => (answer key c, ps)
  | .remote place => ps.perform place fun r st w => r.resolve st key c w

/-- All flags that have a value in a context.  Only remote providers list their flags. -/
def list (ps : Providers) (p : Provider) (c : Context) :
    Except FlagError (List (String × Resolution)) × Providers :=
  match p with
  | .remote place => ps.perform place fun r st w => r.list st c w
  | _ => (.error .notReady, ps)

end Providers

end RemoteFlags
