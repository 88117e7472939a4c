import RemoteFlags.Registry

/-!
# Clients

A client evaluates flags for callers that want a value of a certain type.  It follows the registry,
or it is pinned to one provider.  An evaluation never fails: when something goes wrong, its value is
the caller's default.

## Main definitions

* `Client`, `Client.provider`, `Client.effectiveContext`: which provider is asked, and with what.
* `Details.ofResult`: the outcome of an evaluation, by the type of the default.
* `Client.evaluate`: an evaluation.
-/

namespace RemoteFlags

/-- Where a client finds its provider. -/
inductive Binding where
  /-- In the registry, at the time of every evaluation. -/
  | registered (domain : Option String)
  /-- It has one of its own. -/
  | pinned (p : Provider)

/-- A client. -/
structure Client where
  /-- Where it finds its provider. -/
  binding : Binding
  /-- The context beneath the ones of its evaluations. -/
  context : Context := ∅

namespace Client

/-- The client that is pinned to a provider. -/
def pinned (p : Provider) : Client := ⟨.pinned p, ∅⟩

/-- The client of a domain, or of no domain. -/
def registered (domain : Option String) : Client := ⟨.registered domain, ∅⟩

/-- The client with another context. -/
def withContext (k : Client) (c : Context) : Client := { k with context := c }

/-- The domain of a client that follows the registry. -/
def domain (k : Client) : Option String :=
  match k.binding with
  | .registered d => d
  | .pinned _ => none

/-- The provider that a client asks. -/
def provider (k : Client) (g : Registry) : Provider :=
  match k.binding with
  | .registered d => g.providerFor d
  | .pinned p => p

/-- The context that a client passes on: the registered one, which pinned clients ignore, then its
own, then the one of the evaluation. -/
def effectiveContext (k : Client) (g : Registry) (c : Context) : Context :=
  let base := match k.binding with
    | .registered _ => g.context
    | .pinned _ => ∅
  (base.merge k.context).merge c

end Client

namespace Details

/-- The outcome of a failed evaluation: the default, and what went wrong. -/
def ofError (key : String) (default : FlagValue) (e : FlagError) : Details where
  key := key
  value := default
  variant := none
  reason := .error
  code := some e.code
  message := some e.message
  metadata := ∅

/-- The outcome of an evaluation for a caller who wants a value of the type of the default. -/
def ofResult (key : String) (default : FlagValue) (result : Except FlagError Resolution) :
    Details :=
  match result with
  | .error e => ofError key default e
  | .ok r =>
    match default.type.accepts? r.value with
    | some v => ⟨key, v, r.variant, r.reason, none, none, r.metadata⟩
    | none =>
      ofError key default
        (.typeMismatch ("flag '" ++ key ++ "' resolved to a " ++ r.value.type.name ++ " value"))

end Details

/-- Evaluates a flag for a caller who wants a value of the type of the default. -/
def Client.evaluate (k : Client) (g : Registry) (ps : Providers) (key : String)
    (default : FlagValue) (c : Context) : Details × Providers :=
  let (result, ps) := ps.resolve (k.provider g) key (k.effectiveContext g c)
  (Details.ofResult key default result, ps)

end RemoteFlags
