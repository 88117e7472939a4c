import Mathlib.Data.List.Induction
import RemoteFlags.Client

/-!
# Registrations over time

What a client of the registry asks depends on nothing but the changes of the registry since it was
last shut down.  The registry is one record that is overwritten; here its history is read instead,
from the newest change backwards, and the two are shown to agree after every run of a program.

## Main definitions

* `Change`, `Registry.apply`: the changes of a registry.
* `Act`, `Program`, `Program.step`, `Program.after`: what happens in a program, and what comes of it.
* `newest`: what the newest change since the last shutdown says.
* `providerIn`, `contextIn`: the provider of a domain and the context, read from a history.
* `asked`: an evaluation by a provider in a context.

## Main results

* `Reads.step`, `reads_registryAfter`: the registry says what its history says, after one change and
  after all.
* `Program.registry_after`: only changes count, whatever else happens between them.
* `evaluation_after`: what an evaluation through any client comes to, after any run.
-/

namespace RemoteFlags

namespace Registration

/-- A change of the registry. -/
inductive Change where
  /-- A provider is set for all evaluations without one of their own. -/
  | setProvider (p : Provider)
  /-- A provider is set for a domain. -/
  | setProviderFor (domain : String) (p : Provider)
  /-- A context is set beneath all others. -/
  | setContext (c : Context)
  /-- Everything is dropped. -/
  | shutdown

/-- The registry after a change. -/
def apply (g : Registry) : Change → Registry
  | .setProvider p => g.setProvider p
  | .setProviderFor domain p => g.setProviderFor domain p
  | .setContext c => g.setContext c
  | .shutdown => ∅

/-- The registry after a history of changes. -/
def registryAfter (h : List Change) : Registry := h.foldl apply ∅

/-! ### Histories -/

namespace Change

/-- Whether a change drops everything. -/
def isShutdown : Change → Bool
  | .shutdown => true
  | _ => false

/-- The provider that a change sets for all evaluations without one of their own. -/
def default? : Change → Option Provider
  | .setProvider p => some p
  | _ => none

/-- The provider that a change sets for a domain. -/
def provider? (domain : String) : Change → Option Provider
  | .setProviderFor d p => if d = domain then some p else none
  | _ => none

/-- The context that a change sets. -/
def context? : Change → Option Context
  | .setContext c => some c
  | _ => none

end Change

/-- What the newest change says, of those since the last shutdown that say anything. -/
def newest {α : Type} (find : Change → Option α) (h : List Change) : Option α :=
  (h.reverse.takeWhile fun ch => !ch.isShutdown).findSome? find

/-- The provider that a history gives to a domain, or to evaluations without domain. -/
def providerIn (h : List Change) (domain : Option String) : Provider :=
  ((domain.bind fun d => newest (Change.provider? d) h).or (newest Change.default? h)).getD .idle

/-- The context that a history leaves beneath all others. -/
def contextIn (h : List Change) : Context := (newest Change.context? h).getD ∅

section Newest

variable {α : Type} (find : Change → Option α) (h : List Change)

@[simp] theorem newest_concat_shutdown : newest find (h ++ [.shutdown]) = none := by
  simp [newest, Change.isShutdown]

theorem newest_concat {ch : Change} (hch : ch.isShutdown = false) :
    newest find (h ++ [ch]) = (find ch).or (newest find h) := by
  rw [newest, List.reverse_append, List.reverse_singleton, List.singleton_append,
    List.takeWhile_cons_of_pos (by rw [hch]; rfl), List.findSome?_cons]
  cases find ch with
  | none => rfl
  | some a => rfl

end Newest

/-! ### The registry and its history -/

section Apply

variable {ch : Change} (hch : ch.isShutdown = false) (g : Registry)

include hch

theorem default_apply : (apply g ch).default = ch.default?.getD g.default := by
  cases ch with
  | shutdown => cases hch
  | _ => rfl

theorem get?_domains_apply (d : String) :
    (apply g ch).domains.get? d = (ch.provider? d).or (g.domains.get? d) := by
  cases ch with
  | shutdown => cases hch
  | setProviderFor domain p =>
    rw [Change.provider?]
    by_cases hd : domain = d
    · subst hd
      rw [if_pos rfl]
      exact SortedMap.get?_insert_self _ _ _
    · rw [if_neg hd]
      exact SortedMap.get?_insert_of_ne _ hd _
  | _ => rfl

theorem context_apply : (apply g ch).context = ch.context?.getD g.context := by
  cases ch with
  | shutdown => cases hch
  | _ => rfl

end Apply

/-- A registry says what a history says. -/
structure Reads (h : List Change) (g : Registry) : Prop where
  default : g.default = (newest Change.default? h).getD .idle
  domains : ∀ d, g.domains.get? d = newest (Change.provider? d) h
  context : g.context = contextIn h

namespace Reads

theorem nil : Reads [] ∅ := ⟨rfl, fun _ => rfl, rfl⟩

/-- The step: a change is the newest one of the history that it ends. -/
theorem step {h : List Change} {g : Registry} (hr : Reads h g) (ch : Change) :
    Reads (h ++ [ch]) (apply g ch) := by
  cases hch : ch.isShutdown with
  | true =>
    obtain rfl : ch = .shutdown := by
      cases ch <;> simp_all [Change.isShutdown]
    refine ⟨?_, fun d => ?_, ?_⟩
    · rw [newest_concat_shutdown]
      rfl
    · rw [newest_concat_shutdown]
      rfl
    · rw [contextIn, newest_concat_shutdown]
      rfl
  | false =>
    refine ⟨?_, fun d => ?_, ?_⟩
    · rw [default_apply hch, newest_concat _ _ hch, hr.default]
      cases ch.default? <;> rfl
    · rw [get?_domains_apply hch, newest_concat _ _ hch, hr.domains d]
    · rw [context_apply hch, contextIn, newest_concat _ _ hch, hr.context]
      cases ch.context? <;> rfl

/-- A domain without provider falls back to the provider of all others, in the history as in the
registry. -/
theorem providerFor {h : List Change} {g : Registry} (hr : Reads h g) (domain : Option String) :
    g.providerFor domain = providerIn h domain := by
  have hbound : domain.bind g.domains.get? = domain.bind fun d => newest (Change.provider? d) h :=
    congrArg domain.bind (funext hr.domains)
  rw [Registry.providerFor, providerIn, hbound, hr.default]
  cases domain.bind fun d => newest (Change.provider? d) h with
  | none => rfl
  | some p => rfl

end Reads

theorem registryAfter_concat (h : List Change) (ch : Change) :
    registryAfter (h ++ [ch]) = apply (registryAfter h) ch := by
  rw [registryAfter, List.foldl_append]
  rfl

/-- The run: after any history the registry says what the history says. -/
theorem reads_registryAfter (h : List Change) : Reads h (registryAfter h) := by
  induction h using List.reverseRecOn with
  | nil => exact Reads.nil
  | append_singleton h ch ih =>
    rw [registryAfter_concat]
    exact ih.step ch

/-! ### Programs -/

/-- What happens in a program, as far as clients can tell. -/
inductive Act where
  /-- The registry changes. -/
  | change (ch : Change)
  /-- A client is created. -/
  | create (k : Client)
  /-- A flag is evaluated through a client, which is named by its place among all created ones. -/
  | evaluate (place : Nat) (key : String) (default : FlagValue) (c : Context)
  /-- A remote provider is built. -/
  | build (s : Settings)

/-- The changes of the registry among all that happens. -/
def changes (acts : List Act) : List Change :=
  acts.filterMap fun
    | .change ch => some ch
    | _ => none

/-- A program: what is registered, its clients in the order of their creation, and the providers. -/
structure Program where
  /-- What is registered. -/
  registry : Registry := ∅
  /-- The clients. -/
  clients : List Client := []
  /-- The providers in use. -/
  providers : Providers

namespace Program

/-- An evaluation through the client at a place. -/
def evaluate? (x : Program) (place : Nat) (key : String) (default : FlagValue) (c : Context) :
    Option (Details × Providers) :=
  x.clients[place]?.map fun k => k.evaluate x.registry x.providers key default c

/-- One thing happens. -/
def step (x : Program) : Act → Program
  | .change ch => { x with registry := apply x.registry ch }
  | .create k => { x with clients := x.clients ++ [k] }
  | .evaluate place key default c =>
    { x with providers := ((x.evaluate? place key default c).map Prod.snd).getD x.providers }
  | .build s => { x with providers := (x.providers.build s).2 }

/-- A program from its start, with nothing registered and no client. -/
def after (ps : Providers) (acts : List Act) : Program :=
  acts.foldl step { providers := ps }

theorem after_concat (ps : Providers) (acts : List Act) (a : Act) :
    after ps (acts ++ [a]) = (after ps acts).step a := by
  rw [after, List.foldl_append]
  rfl

/-- Clients that come and go, evaluations and new providers leave the registry as it is. -/
theorem registry_after (ps : Providers) (acts : List Act) :
    (after ps acts).registry = registryAfter (changes acts) := by
  induction acts using List.reverseRecOn with
  | nil => rfl
  | append_singleton acts a ih =>
    rw [after_concat]
    cases a with
    | change ch =>
      have hchanges : changes (acts ++ [.change ch]) = changes acts ++ [ch] := by simp [changes]
      rw [hchanges, registryAfter_concat]
      exact congrArg (apply · ch) ih
    | create k => simpa [changes, step] using ih
    | evaluate place key default c => simpa [changes, step] using ih
    | build s => simpa [changes, step] using ih

theorem clients_step (x : Program) (a : Act) :
    x.clients <+: (x.step a).clients := by
  cases a with
  | create k => exact List.prefix_append _ _
  | _ => exact List.prefix_rfl

theorem clients_foldl (x : Program) (acts : List Act) :
    x.clients <+: (acts.foldl step x).clients := by
  induction acts generalizing x with
  | nil => exact List.prefix_rfl
  | cons a acts ih => exact (clients_step x a).trans (ih (x.step a))

/-- A client stays at the place where it was created. -/
theorem client_after (ps : Providers) (before later : List Act) (k : Client) :
    (after ps (before ++ .create k :: later)).clients[(after ps before).clients.length]? =
      some k := by
  have hafter : after ps (before ++ .create k :: later) =
      later.foldl step ((after ps before).step (.create k)) := by
    rw [after, List.foldl_append, List.foldl_cons]
    rfl
  obtain ⟨rest, hrest⟩ := clients_foldl ((after ps before).step (.create k)) later
  rw [hafter, ← hrest, step, List.append_assoc, List.getElem?_append_right (Nat.le_refl _)]
  simp

/-- An evaluation through a client that was created some time ago. -/
theorem evaluate?_client (ps : Providers) (before later : List Act) (k : Client) (key : String)
    (default : FlagValue) (c : Context) :
    (after ps (before ++ .create k :: later)).evaluate? (after ps before).clients.length key default
        c =
      some (k.evaluate (registryAfter (changes (before ++ later)))
        (after ps (before ++ .create k :: later)).providers key default c) := by
  have hchanges : changes (before ++ .create k :: later) = changes (before ++ later) := by
    simp [changes]
  rw [evaluate?, client_after, registry_after, hchanges]
  rfl

/-- A change of the registry is seen by a client of any age. -/
theorem evaluate?_client_change (ps : Providers) (before later : List Act) (k : Client)
    (ch : Change) (key : String) (default : FlagValue) (c : Context) :
    ((after ps (before ++ .create k :: later)).step (.change ch)).evaluate?
        (after ps before).clients.length key default c =
      some (k.evaluate (registryAfter (changes (before ++ later) ++ [ch]))
        (after ps (before ++ .create k :: later)).providers key default c) := by
  have hacts : before ++ .create k :: later ++ [.change ch] =
      before ++ .create k :: (later ++ [.change ch]) := by
    rw [List.append_assoc, List.cons_append]
  have hchanges : changes (before ++ (later ++ [.change ch])) =
      changes (before ++ later) ++ [ch] := by
    simp [changes]
  have hproviders : (after ps (before ++ .create k :: (later ++ [.change ch]))).providers =
      (after ps (before ++ .create k :: later)).providers := by
    rw [← hacts, after_concat]
    rfl
  rw [← after_concat, hacts, evaluate?_client, hchanges, hproviders]

end Program

/-! ### Evaluations -/

/-- What an evaluation comes to, with the providers afterwards, when a certain provider is asked in
a certain context. -/
def asked (p : Provider) (ps : Providers) (key : String) (default : FlagValue) (c : Context) :
    Details × Providers :=
  (Details.ofResult key default (ps.resolve p key c).1, (ps.resolve p key c).2)

theorem evaluate_registered {h : List Change} {g : Registry} (hr : Reads h g)
    (domain : Option String) (own : Context) (ps : Providers) (key : String) (default : FlagValue)
    (c : Context) :
    ((Client.registered domain).withContext own).evaluate g ps key default c =
      asked (providerIn h domain) ps key default (((contextIn h).merge own).merge c) := by
  rw [← hr.providerFor domain, ← hr.context]
  rfl

theorem contextIn_concat_setProviderFor (h : List Change) (d : String) (p : Provider) :
    contextIn (h ++ [.setProviderFor d p]) = contextIn h :=
  congrArg (Option.getD · ∅) (newest_concat _ _ rfl)

/-- A provider that is set for a domain is asked for that domain and for no other. -/
theorem providerIn_concat_setProviderFor (h : List Change) (domain : Option String) (d : String)
    (p : Provider) :
    providerIn (h ++ [.setProviderFor d p]) domain =
      if domain = some d then p else providerIn h domain := by
  have hdefault : newest Change.default? (h ++ [.setProviderFor d p]) = newest Change.default? h :=
    newest_concat _ _ rfl
  have hprovider (e : String) : newest (Change.provider? e) (h ++ [.setProviderFor d p]) =
      if d = e then some p else newest (Change.provider? e) h := by
    rw [newest_concat _ _ rfl, Change.provider?]
    by_cases he : d = e
    · rw [if_pos he, if_pos he]
      rfl
    · rw [if_neg he, if_neg he]
      rfl
  rw [providerIn, providerIn, hdefault]
  cases domain with
  | none => rfl
  | some e =>
    rw [Option.bind_some, hprovider]
    by_cases he : d = e
    · rw [if_pos he, if_pos (congrArg some he.symm)]
      rfl
    · rw [if_neg he, if_neg fun h => he (Option.some.inj h).symm]
      rfl

/-- **Evaluations follow the newest registrations.**  At any time of any program, and however long
ago the client was created:

* a client of a domain, or of none, asks the provider that the changes since the last shutdown give
  to the domain, and passes on the context that they leave; and one more provider for a domain
  changes what clients of that domain ask, and nothing for all others;
* a pinned client asks its own provider and leaves the registered context out, and no change of the
  registry makes a difference to it;
* where nothing is registered, the caller gets the default back, since the provider is not ready. -/
theorem evaluation_after (ps : Providers) (before later : List Act) (own : Context) (key : String)
    (default : FlagValue) (c : Context) :
    let place := (Program.after ps before).clients.length
    (∀ domain : Option String,
      let x := Program.after ps
        (before ++ .create ((Client.registered domain).withContext own) :: later)
      let h := changes (before ++ later)
      let context := ((contextIn h).merge own).merge c
      x.evaluate? place key default c =
          some (asked (providerIn h domain) x.providers key default context) ∧
        ∀ d p, (x.step (.change (.setProviderFor d p))).evaluate? place key default c =
          if domain = some d then some (asked p x.providers key default context)
          else x.evaluate? place key default c) ∧
    (∀ p : Provider,
      let x := Program.after ps (before ++ .create ((Client.pinned p).withContext own) :: later)
      x.evaluate? place key default c =
          some (asked p x.providers key default (((∅ : Context).merge own).merge c)) ∧
        ∀ ch, (x.step (.change ch)).evaluate? place key default c =
          x.evaluate? place key default c) ∧
    asked .idle ps key default c =
      (⟨key, default, none, .error, some .providerNotReady, some FlagError.notReady.message, ∅⟩,
        ps) := by
  refine ⟨fun domain => ⟨?_, fun d p => ?_⟩, fun p => ⟨?_, fun ch => ?_⟩, rfl⟩
  · rw [Program.evaluate?_client, evaluate_registered (reads_registryAfter _)]
  · rw [Program.evaluate?_client_change, Program.evaluate?_client,
      evaluate_registered (reads_registryAfter _), evaluate_registered (reads_registryAfter _),
      contextIn_concat_setProviderFor, providerIn_concat_setProviderFor]
    by_cases hd : domain = some d
    · rw [if_pos hd, if_pos hd]
    · rw [if_neg hd, if_neg hd]
  · rw [Program.evaluate?_client]
    rfl
  · rw [Program.evaluate?_client_change, Program.evaluate?_client]
    rfl

end Registration

end RemoteFlags
