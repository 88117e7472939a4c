import Mathlib.Logic.Relation
import RemoteFlags.Proofs.Fields
import RemoteFlags.Proofs.Smoke.FirstFailure
import RemoteFlags.Proofs.Smoke.Wire

/-!
# What a run leaves behind

A run registers the provider that it builds, and nothing else is different in the registry after it,
however the run ends.  What the run sends are the requests of that provider for the flags of its
checks; but the HTTP library goes where replies redirect it to, so other requests can follow those.

## Main definitions

* `Network.LeadsTo n n'` — requests that redirections make of a request.
* `AsksFor r place c keys ps ps'` — what comes of evaluations by one provider.

## Main results

* `Remote.hears_resolveSingle`, `asksFor_resolve` — one evaluation.
* `exists_made_runChecks` — the checks that are made determine the state after a run.
* `asksFor_stateAfter`, `asksFor_check` — evaluations one after the other, by induction on the checks.
* `effect_of_run` — **a run sets the default provider and asks it.**
* `not_confined_to_base` — a run whose requests do not all go where its configuration says.
-/

namespace RemoteFlags

/-! ### Requests that lead to others -/

namespace Http.Network

/-- The redirections between a network and a later one make a request of another one, by and by. -/
def LeadsTo (n n' : Network) : Request → Request → Prop :=
  Relation.ReflTransGen (n.Redirects n')

theorem LeadsTo.mono {m n n' m' : Network} {q q' : Request} (h : m.Later n) (h' : n'.Later m')
    (hq : n.LeadsTo n' q q') : m.LeadsTo m' q q' := by
  induction hq with
  | refl => exact .refl
  | tail _ hredirects ih => exact ih.tail (hredirects.mono h h')

/-- Where no reply names another place, a request leads to itself only. -/
theorem eq_of_leadsTo {n n' : Network} {q q' : Request}
    (hstays : ∀ i a, n.count ≤ i → i < n'.count → n.reply i = .answered a →
      isRedirect a.status = true → a.headers.lookup "location" = none)
    (hq : n.LeadsTo n' q q') : q' = q := by
  have hnone : ∀ q₁ q₂, ¬ n.Redirects n' q₁ q₂ := by
    rintro q₁ q₂ ⟨i, a, hle, hlt, hreply, hnext⟩
    unfold next? at hnext
    split at hnext
    · next hredirect =>
      have hplace := hstays i a hle hlt hreply hredirect
      simp [Response.header?, hplace] at hnext
    · simp at hnext
  exact (Relation.reflTransGen_iff_eq (hnone q)).mp hq

end Http.Network

/-! ### One evaluation -/

namespace Remote

open Http.Network (Hears LeadsTo)

variable (r : Remote) (st : State) (key : String) (c : Context) (w : World)

theorem later_network_resolveSingle :
    w.network.Later (r.resolveSingle st key c w).world.network :=
  (later_post.trans (later_resolveSingle r st key c w)).network

/-- All that arrives is the request for the flag, and what redirections make of it. -/
theorem hears_resolveSingle :
    Hears (LeadsTo w.network (r.resolveSingle st key c w).world.network (r.flagRequest c key))
      w.network (r.resolveSingle st key c w).world.network := by
  rw [network_resolveSingle, post_eq]
  cases Pause.pausedUntil? st.pause w.now.1 with
  | some t => exact Hears.refl _
  | none =>
    exact hears_attempts r.maxRetries w.now.2 .refl fun _ _ hleads hredirects =>
      hleads.tail hredirects

end Remote

namespace Smoke

open Http.Network (Hears LeadsTo)

/-- What comes of evaluations by one provider: its state changes and no other one, and all that
arrives are its requests for flags, and what redirections make of them. -/
structure AsksFor (r : Remote) (place : Nat) (c : Context) (keys : List String)
    (ps ps' : Providers) : Prop where
  /-- The provider stays where it is, and the others are as they were. -/
  remotes : ∃ st, ps'.remotes = ps.remotes.set place (r, st)
  /-- The network went on. -/
  later : ps.world.network.Later ps'.world.network
  /-- Requests for the flags arrive. -/
  hears : Hears (fun q => ∃ key ∈ keys,
      LeadsTo ps.world.network ps'.world.network (r.flagRequest c key) q)
    ps.world.network ps'.world.network

section

variable {r : Remote} {place : Nat} {c : Context} {keys keys' : List String}
  {ps ps' ps'' : Providers} {st : Remote.State}

theorem AsksFor.refl (hst : ps.remotes[place]? = some (r, st)) : AsksFor r place c [] ps ps := by
  refine ⟨⟨st, ?_⟩, .refl _, .refl _⟩
  obtain ⟨hplace, hget⟩ := List.getElem?_eq_some_iff.mp hst
  rw [← hget, List.set_getElem_self]

theorem AsksFor.trans (h : AsksFor r place c keys ps ps') (h' : AsksFor r place c keys' ps' ps'') :
    AsksFor r place c (keys ++ keys') ps ps'' := by
  obtain ⟨st, hst⟩ := h.remotes
  obtain ⟨st', hst'⟩ := h'.remotes
  refine ⟨⟨st', ?_⟩, h.later.trans h'.later, ?_⟩
  · rw [hst', hst, List.set_set]
  · -- Redirections of either part are redirections of the whole.
    refine Hears.trans (h.hears.imp ?_) (h'.hears.imp ?_)
    · rintro q ⟨key, hkey, hq⟩
      exact ⟨key, List.mem_append_left _ hkey, hq.mono (.refl _) h'.later⟩
    · rintro q ⟨key, hkey, hq⟩
      exact ⟨key, List.mem_append_right _ hkey, hq.mono h.later (.refl _)⟩

theorem asksFor_resolve (hmode : r.mode = .single) (hst : ps.remotes[place]? = some (r, st))
    (key : String) : AsksFor r place c [key] ps (ps.resolve (.remote place) key c).2 := by
  have hresolve : (ps.resolve (.remote place) key c).2 =
      ⟨ps.remotes.set place (r, (r.resolveSingle st key c ps.world).state),
        (r.resolveSingle st key c ps.world).world⟩ := by
    simp only [Providers.resolve, Providers.perform, hst, Remote.resolve, hmode]
  rw [hresolve]
  refine ⟨⟨_, rfl⟩, r.later_network_resolveSingle st key c ps.world, ?_⟩
  exact (r.hears_resolveSingle st key c ps.world).imp fun q hq =>
    ⟨key, List.mem_singleton_self key, hq⟩

end

/-! ### Checks one after the other -/

/-- Some first checks are made, whether they pass or not, and no others. -/
theorem exists_made_runChecks {σ : Type} (evaluate : σ → Check → Details × σ) (c : Context)
    (checks : List Check) (passed : List String) (sink : Sink) (st : σ) :
    ∃ made, made <+: checks ∧
      (runChecks evaluate c checks passed sink st).state = stateAfter evaluate st made := by
  induction checks generalizing passed sink st with
  | nil => exact ⟨[], List.nil_prefix, rfl⟩
  | cons check checks ih =>
    -- The check itself is made in any case; the others are made if it passes and is written down.
    have hone : [check] <+: check :: checks := List.prefix_append [check] checks
    rw [runChecks]
    dsimp only
    split
    · exact ⟨[check], hone, rfl⟩
    · next value _ =>
      split
      · exact ⟨[check], hone, rfl⟩
      · next sink' _ =>
        obtain ⟨made, hmade, hstate⟩ := ih (passed ++ [check.key]) sink' (evaluate st check).2
        exact ⟨check :: made, List.cons_prefix_cons.mpr ⟨rfl, hmade⟩, hstate⟩

theorem asksFor_stateAfter {r : Remote} (hmode : r.mode = .single) {place : Nat} {k : Client}
    {g : Registry} (hk : k.provider g = .remote place) (c : Context) (checks : List Check)
    {ps : Providers} {st : Remote.State} (hst : ps.remotes[place]? = some (r, st)) :
    AsksFor r place (k.effectiveContext g c) (checks.map (·.key)) ps
      (stateAfter (fun ps check => k.evaluate g ps check.key check.default c) ps checks) := by
  induction checks generalizing ps st with
  | nil => exact .refl hst
  | cons check checks ih =>
    have hfirst : AsksFor r place (k.effectiveContext g c) [check.key] ps
        (k.evaluate g ps check.key check.default c).2 := by
      have hasked := asksFor_resolve (c := k.effectiveContext g c) hmode hst check.key
      rw [← hk] at hasked
      exact hasked
    obtain ⟨st', hst'⟩ := hfirst.remotes
    obtain ⟨hplace, -⟩ := List.getElem?_eq_some_iff.mp hst
    have hnext : (k.evaluate g ps check.key check.default c).2.remotes[place]? = some (r, st') := by
      rw [hst', List.getElem?_set_self hplace]
    exact hfirst.trans (ih hnext)

/-- The checks of a session leave its registry as it is, and ask the provider for their flags. -/
theorem asksFor_check {r : Remote} (hmode : r.mode = .single) {place : Nat} {s : Session}
    {k : Client} (hk : k.provider s.registry = .remote place) {st : Remote.State}
    (hst : s.providers.remotes[place]? = some (r, st)) (c : Context) (checks : List Check)
    (sink : Sink) :
    let report := s.check k c checks sink
    report.state.registry = s.registry ∧ ∃ made, made <+: checks ∧
      AsksFor r place (k.effectiveContext s.registry c) (made.map (·.key)) s.providers
        report.state.providers := by
  intro report
  obtain ⟨made, hmade, hstate⟩ := exists_made_runChecks
    (fun ps check => k.evaluate s.registry ps check.key check.default c) c checks [] sink
    s.providers
  have hproviders : report.state.providers = _ := hstate
  rw [hproviders]
  exact ⟨rfl, made, hmade, asksFor_stateAfter hmode hk c made hst⟩

/-! ### Runs -/

/-- The context of a run, with the registered one beneath it. -/
theorem effectiveContext_defaultContext (g : Registry) :
    (Client.registered none).effectiveContext g defaultContext =
      g.context.withAttribute "countryCode" (.string "nl") := rfl

/-- Settings that are not acceptable leave everything as it was, but for the look at the clock. -/
theorem build_of_error {ps : Providers} {s : Settings} {f : Settings.Fault}
    (h : s.build ps.world.now.1 = .error f) :
    ps.build s = (.error (.configuration f.message), { ps with world := ps.world.now.2 }) := by
  obtain ⟨now, w, hnow⟩ : ∃ now w, ps.world.now = (now, w) := ⟨_, _, rfl⟩
  rw [hnow] at h
  simp only [Providers.build, hnow, h]

/-- **A run sets the default provider and asks it.**

* When the configuration is not acceptable, the run says so, and the registry, the providers, the
  network and the sink are as before.
* Otherwise, however the run ends, the registry has another default provider and is as before in its
  domains and its context.  The new provider is the one that the configuration asks for, and all
  others are as before.  All that arrived are its requests for the flags of the checks, in the
  registered context with the country laid over it, and what redirections made of these.  When no
  reply of the run named another place, there are only the former. -/
theorem effect_of_run (s : Session) (config : Config) (sink : Sink) :
    let report := s.run config sink
    let n := s.providers.world.network
    let n' := report.state.providers.world.network
    let c := s.registry.context.withAttribute "countryCode" (.string "nl")
    (∀ f, config.settings.build s.providers.world.now.1 = .error f →
      report.result = .error (.configuration (.configuration f.message)) ∧
        report.state.registry = s.registry ∧
        report.state.providers.remotes = s.providers.remotes ∧ n' = n ∧ report.sink = sink) ∧
    ∀ r, config.settings.build s.providers.world.now.1 = .ok r →
      report.state.registry = s.registry.setProvider (.remote s.providers.remotes.length) ∧
        (∃ st, report.state.providers.remotes = s.providers.remotes ++ [(r, st)]) ∧
        ∃ qs, n'.arrived = n.arrived ++ qs ∧
          (∀ q ∈ qs, ∃ check ∈ defaultChecks, n.LeadsTo n' (r.flagRequest c check.key) q) ∧
          ((∀ i a, n.count ≤ i → i < n'.count → n.reply i = .answered a →
              Http.Network.isRedirect a.status = true → a.headers.lookup "location" = none) →
            ∀ q ∈ qs, ∃ check ∈ defaultChecks, q = r.flagRequest c check.key) := by
  intro report n n' c
  refine ⟨?_, ?_⟩
  · intro f hbuild
    have hreport : report = ⟨.error (.configuration (.configuration f.message)), sink,
        { s with providers := { s.providers with world := s.providers.world.now.2 } }⟩ := by
      simp only [report, Session.run, build_of_error hbuild]
    simp [n', n, hreport]
  · intro r hbuild
    obtain ⟨now, ps, hps, hremotes, hnetwork⟩ := build_of_ok hbuild
    let t : Session := ⟨s.registry.setProvider (.remote s.providers.remotes.length), ps⟩
    have hreport : report = t.check (.registered none) defaultContext defaultChecks sink := by
      simp only [report, Session.run, hps, t]
    have hst : t.providers.remotes[s.providers.remotes.length]? = some (r, .initial now) := by
      simp [t, hremotes]
    obtain ⟨hregistry, made, hmade, hasks⟩ := asksFor_check (s := t) (k := .registered none)
      (mode_of_build hbuild) rfl hst defaultContext defaultChecks sink
    rw [← hreport] at hregistry hasks
    rw [effectiveContext_defaultContext] at hasks
    obtain ⟨⟨st, hst'⟩, -, qs, harrived, hqs⟩ := hasks
    have hsame : t.providers.world.network = n := hnetwork
    rw [hsame] at harrived hqs
    have hleads : ∀ q ∈ qs, ∃ check ∈ defaultChecks,
        n.LeadsTo n' (r.flagRequest c check.key) q := by
      intro q hq
      obtain ⟨key, hkey, hleads⟩ := hqs q hq
      obtain ⟨check, hcheck, rfl⟩ := List.mem_map.mp hkey
      exact ⟨check, hmade.subset hcheck, hleads⟩
    refine ⟨hregistry, ⟨st, ?_⟩, qs, harrived, hleads, ?_⟩
    · simp [hst', t, hremotes]
    · intro hstays q hq
      obtain ⟨check, hcheck, hq⟩ := hleads q hq
      exact ⟨check, hcheck, Http.Network.eq_of_leadsTo hstays hq⟩

/-- The session with the server that tells every check what it wants, where another country is
registered. -/
def foreignSession : Session :=
  { wantedSession with
    registry := { context := (∅ : Context).withAttribute "countryCode" (.string "de") } }

theorem isOk_build_default : (({} : Config).settings.build ⟨0, 0⟩).isOk = true := by decide +kernel

theorem isOk_build_blank : (({ baseUrl := "" } : Config).settings.build ⟨0, 0⟩).isOk = false := by
  decide +kernel

/-- A run with a blank place is refused, and one with the usual place asks for the other country. -/
theorem effect_on_foreignSession :
    (∃ f, (foreignSession.run { baseUrl := "" } {}).result = .error (.configuration f)) ∧
      ∃ r : Remote, ∀ q ∈ (foreignSession.run {} {}).state.providers.world.network.arrived,
        ∃ check ∈ defaultChecks, q = r.flagRequest defaultContext check.key := by
  refine ⟨?_, ?_⟩
  · cases hbuild : ({ baseUrl := "" } : Config).settings.build ⟨0, 0⟩ with
    | ok r => simpa [hbuild] using isOk_build_blank
    | error f => exact ⟨_, ((effect_of_run foreignSession { baseUrl := "" } {}).1 f hbuild).1⟩
  · cases hbuild : ({} : Config).settings.build ⟨0, 0⟩ with
    | error f => simpa [hbuild] using isOk_build_default
    | ok r =>
      obtain ⟨-, -, qs, harrived, -, hown⟩ := (effect_of_run foreignSession {} {}).2 r hbuild
      refine ⟨r, fun q hq => hown (fun i a _ _ ha => isPlain_wantedReply.stays i a ha) q ?_⟩
      rw [harrived] at hq
      exact hq

/-! ### Redirections -/

/-- A server that wants the first request to go elsewhere. -/
def movedReply : Nat → Http.Reply
  | 0 => .answered { status := 307, headers := [("location", "http://elsewhere.test/")] }
  | i + 1 => wantedReply i

/-- A session in the world with that server. -/
def movedSession : Session :=
  { providers := { world := ⟨{ reply := movedReply }, { reading := fun _ => ⟨0, 0⟩ }⟩ } }

/-- **A run whose requests do not all go where its configuration says.**  They go where the server
says. -/
theorem not_confined_to_base :
    ¬ ∀ (s : Session) (config : Config) (sink : Sink) (r : Remote),
      config.settings.build s.providers.world.now.1 = .ok r →
      ∃ qs, (s.run config sink).state.providers.world.network.arrived =
          s.providers.world.network.arrived ++ qs ∧
        ∀ q ∈ qs, q.url.host = r.base.host := by
  intro h
  have hbase : (({ baseUrl := "http://flags.test" } : Config).settings.build ⟨0, 0⟩).toOption.any
      (fun r => r.base.host == some "flags.test") = true := by decide +kernel
  have helsewhere : (movedSession.run { baseUrl := "http://flags.test" }
      {}).state.providers.world.network.arrived.any
        (fun q => q.url.host == some "elsewhere.test") = true := by decide +kernel
  cases hbuild : ({ baseUrl := "http://flags.test" } : Config).settings.build ⟨0, 0⟩ with
  | error f => simp [hbuild, Except.toOption] at hbase
  | ok r =>
    have hhost : r.base.host = some "flags.test" := by
      simpa [hbuild, Except.toOption] using hbase
    obtain ⟨q, hq, helse⟩ := List.any_eq_true.mp helsewhere
    obtain ⟨qs, harrived, hqs⟩ := h movedSession _ {} r hbuild
    have hconfined : q.url.host = r.base.host := by
      apply hqs
      rw [harrived] at hq
      exact hq
    rw [hconfined, hhost] at helse
    exact absurd helse (by decide)

end Smoke

end RemoteFlags
