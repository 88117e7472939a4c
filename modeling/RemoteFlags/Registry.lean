import RemoteFlags.Provider.Basic

/-!
# The registry of providers

A program registers a provider for all evaluations, and others for its domains.  It also sets a
context that lies beneath the contexts of all registered evaluations.

## Main definitions

* `Registry`: what is registered.
* `Registry.providerFor`: the provider of a domain.
-/

namespace RemoteFlags

/-- What is registered. -/
structure Registry where
  /-- The provider of all evaluations without one of their own. -/
  default : Provider := .idle
  /-- The providers of domains. -/
  domains : SortedMap Provider := ∅
  /-- The context beneath all others. -/
  context : Context := ∅

namespace Registry

/-- The registry in which nothing is registered. -/
def empty : Registry := {}

instance : EmptyCollection Registry := ⟨empty⟩

/-- Registers a provider for all evaluations without one of their own. -/
def setProvider (g : Registry) (p : Provider) : Registry := { g with default := p }

/-- Registers the provider of a domain. -/
def setProviderFor (g : Registry) (domain : String) (p : Provider) : Registry :=
  { g with domains := g.domains.insert domain p }

/-- Sets the context beneath all others. -/
def setContext (g : Registry) (c : Context) : Registry := { g with context := c }

/-- The provider of a domain, or of evaluations without domain. -/
def providerFor (g : Registry) (domain : Option String) : Provider :=
  (domain.bind g.domains.get?).getD g.default

end Registry

end RemoteFlags
