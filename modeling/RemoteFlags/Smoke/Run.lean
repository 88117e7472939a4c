import RemoteFlags.Client
import RemoteFlags.Smoke.Check
import RemoteFlags.Smoke.Config
import RemoteFlags.Smoke.Sink

/-!
# Runs

Checks are made one after the other.  Every check that passes is written down as a line; the first
one that does not ends the run.

## Main definitions

* `Fault`: how a run fails.
* `runChecks`: the checks of a run, whatever evaluates them.
* `Session`, `Session.run`: a run with a provider that is built for it and registered.
-/

namespace RemoteFlags

namespace Smoke

/-- How a run fails. -/
inductive Fault where
  /-- A flag has another value than the expected one. -/
  | mismatch (key : String) (actual expected : FlagValue)
  /-- A flag could not be evaluated. -/
  | evaluation (key : String) (code : ErrorCode) (message : String)
  /-- The configuration is not acceptable. -/
  | configuration (cause : FlagError)
  /-- A line could not be written. -/
  | output (text : String)

/-- The failure in words. -/
def Fault.message : Fault → String
  | .mismatch key actual expected =>
    key ++ ": expected " ++ expected.text ++ ", got " ++ actual.text
  | .evaluation key code message =>
    key ++ ": evaluation failed (" ++ code.text ++ "): " ++ message
  | .configuration cause => "Configuration error: " ++ cause.message
  | .output text => "Output error: " ++ text

/-- The failure of a sink that has no room left. -/
def full : Fault := .output "output is full"

/-- The line of a check that passes. -/
def passLine (c : Context) (key : String) (value : FlagValue) : String :=
  let place := if c.isEmpty then "" else "(" ++ c.summary ++ ")"
  "PASS " ++ key ++ place ++ " == " ++ value.text ++ "\n"

/-- What an evaluation says about a check: the value to be written down, or how the check fails. -/
def verdict (check : Check) (d : Details) : Except Fault FlagValue :=
  match d.code with
  | some code => .error (.evaluation check.key code (d.message.getD ""))
  | none =>
    if d.value.same check.expected then .ok d.value
    else .error (.mismatch check.key d.value check.expected)

/-- What comes of a run: the keys that passed or how it failed, what was written, and the state of
what evaluates the flags. -/
structure Report (σ : Type) where
  /-- The keys that passed, in their order. -/
  result : Except Fault (List String)
  /-- The sink afterwards. -/
  sink : Sink
  /-- What evaluates the flags, afterwards. -/
  state : σ

/-- Makes checks one after the other, after those in `passed`, up to the first one that fails. -/
def runChecks {σ : Type} (evaluate : σ → Check → Details × σ) (c : Context) :
    List Check → List String → Sink → σ → Report σ
  | [], passed, sink, st => ⟨.ok passed, sink, st⟩
  | check :: checks, passed, sink, st =>
    let (d, st) := evaluate st check
    match verdict check d with
    | .error f => ⟨.error f, sink, st⟩
    | .ok value =>
      match sink.write (passLine c check.key value) with
      | (false, sink) => ⟨.error full, sink, st⟩
      | (true, sink) => runChecks evaluate c checks (passed ++ [check.key]) sink st

/-- What a program works with: the registry and the providers. -/
structure Session where
  /-- What is registered. -/
  registry : Registry := ∅
  /-- The remote providers in use. -/
  providers : Providers

namespace Session

/-- Makes checks through a client. -/
def check (s : Session) (k : Client) (c : Context) (checks : List Check) (sink : Sink) :
    Report Session :=
  let evaluate (ps : Providers) (check : Check) : Details × Providers :=
    k.evaluate s.registry ps check.key check.default c
  let report := runChecks evaluate c checks [] sink s.providers
  ⟨report.result, report.sink, { s with providers := report.state }⟩

/-- Registers the provider that a configuration asks for, and makes the default checks with it. -/
def run (s : Session) (config : Config) (sink : Sink) : Report Session :=
  match s.providers.build config.settings with
  | (.error e, ps) => ⟨.error (.configuration e), sink, { s with providers := ps }⟩
  | (.ok p, ps) =>
    let s : Session := ⟨s.registry.setProvider p, ps⟩
    s.check (.registered none) defaultContext defaultChecks sink

end Session

end Smoke

end RemoteFlags
