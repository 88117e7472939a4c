import RemoteFlags.Proofs.Single
import RemoteFlags.Proofs.Smoke.Verdict

/-!
# Runs on the wire

Whether a run of the default checks passes, where it stops, and what is sent and written meanwhile is
a matter of the replies alone, provided that the HTTP library can name the places of the flags.  The
bodies of the replies are texts in the encodings of `Text.Charset`.

## Main definitions

* `Check.PassesOn` — a check passes, given the reply to its request.
* `Ready r place ps` — a provider is in use, and no pause is on.

## Main results

* `evaluate_spec` — one check on the wire.
* `runChecks_spec` — checks one after the other, by induction on their list.
* `run_iff_passes` — **a run on the wire.**
* `not_run_of_told` — a run that fails although all replies tell what is wanted.
-/

namespace RemoteFlags
namespace Smoke

/-! ### One check -/

/-- A check passes: the place of its flag can be named, and the reply to its request tells the wanted
value. -/
def Check.PassesOn (r : Remote) (c : Context) (check : Check) (t : Json.Tree)
    (reply : Http.Reply) : Prop :=
  ∃ s, r.Passes c check.key reply s ∧ s.value.tree = t

/-- A provider is in use at some place, and no pause is on. -/
def Ready (r : Remote) (place : Nat) (ps : Providers) : Prop :=
  ∃ st, ps.remotes[place]? = some (r, st) ∧ st.pause = none

section

variable {r : Remote} {place : Nat} {ps : Providers} {k : Client} {g : Registry}

theorem evaluate_of_ready (hr : r.AsksOnce) {st : Remote.State}
    (hst : ps.remotes[place]? = some (r, st)) (hk : k.provider g = .remote place) (key : String)
    (default : FlagValue) (c : Context) :
    let o := r.resolveSingle st key (k.effectiveContext g c) ps.world
    k.evaluate g ps key default c =
      (Details.ofResult key default o.result, ⟨ps.remotes.set place (r, o.state), o.world⟩) := by
  simp [Client.evaluate, hk, Providers.resolve, Providers.perform, hst, Remote.resolve, hr.mode]

/-- **One check on the wire.**  It sends its request if its place can be named, and it passes or fails
as the reply tells. -/
theorem evaluate_spec (hr : r.AsksOnce) (hready : Ready r place ps)
    (hplain : ps.world.network.IsPlain) (hk : k.provider g = .remote place) {check : Check}
    {t : Json.Tree} (hw : check.Wants t) (c : Context) :
    let o := k.evaluate g ps check.key check.default c
    let n := ps.world.network
    let q := r.flagRequest (k.effectiveContext g c) check.key
    o.2.world.network = (if Http.Network.isTarget q.url then n.sent [q] else n) ∧
    ((check.PassesOn r (k.effectiveContext g c) t (n.reply n.count) ∧
        verdict check o.1 = .ok check.expected ∧ Ready r place o.2) ∨
      (¬ check.PassesOn r (k.effectiveContext g c) t (n.reply n.count) ∧
        ∃ f, verdict check o.1 = .error f ∧ f.Names check.key)) := by
  intro o n q
  obtain ⟨st, hst, hpause⟩ := hready
  have ho : o = _ := evaluate_of_ready hr hst hk check.key check.default c
  obtain ⟨hnetwork, htold⟩ :=
    Remote.resolveSingle_spec hr hplain hpause check.key (k.effectiveContext g c)
  rw [ho]
  refine ⟨hnetwork, ?_⟩
  rcases htold with ⟨s, hpasses, hresult, hstate⟩ | ⟨hnever, e, hresult⟩
  · simp only [hresult, hstate]
    have hvalue : s.resolution.value = .ofJson s.value := rfl
    -- The reply tells this success and no other, so its value decides.
    rcases verdict_of_wants hw hvalue with
      ⟨htree, hverdict⟩ | ⟨htree, hverdict⟩
    · refine .inl ⟨⟨s, hpasses, htree⟩, hverdict, st, ?_, hpause⟩
      have hplace : place < ps.remotes.length := by
        rw [List.getElem?_eq_some_iff] at hst
        exact hst.1
      simp [hplace]
    · refine .inr ⟨?_, hverdict⟩
      rintro ⟨s', hpasses', htree'⟩
      obtain rfl : s = s' := hpasses.2.unique hpasses'.2
      exact htree htree'
  · simp only [hresult]
    refine .inr ⟨?_, verdict_of_error check e⟩
    rintro ⟨s, hpasses, -⟩
    exact hnever s hpasses

/-! ### Checks one after the other -/

theorem Sink.write_of_room {sink : Sink} (h : sink.room = none) (line : String) :
    sink.write line = (true, { sink with written := sink.written ++ Text.utf8 line }) := by
  simp [write, writeBytes, h]

/-- The check at some place of a plan passes by the reply to the request at the same place. -/
def PassesAt (r : Remote) (c : Context) (n : Http.Network) (plan : List (Check × Json.Tree))
    (i : Nat) : Prop :=
  ∃ p, plan[i]? = some p ∧ p.1.PassesOn r c p.2 (n.reply (n.count + i))

/-- The requests of a plan. -/
def requestsOf (r : Remote) (c : Context) (plan : List (Check × Json.Tree)) : List Http.Request :=
  plan.map fun p => r.flagRequest c p.1.key

/-- What is written down when a plan passes. -/
def linesOf (c : Context) (plan : List (Check × Json.Tree)) : List UInt8 :=
  plan.flatMap fun p => Text.utf8 (passLine c p.1.key p.1.expected)

/-- The checks of a plan are made until one fails: `m` of them pass and are written down, and then
all are done, or the next one fails and is named.  That one has sent its request too if its place can
be named. -/
structure EndsAfter (r : Remote) (c c' : Context) (n : Http.Network)
    (plan : List (Check × Json.Tree)) (passed : List String) (written : List UInt8)
    (report : Report Providers) (m : Nat) : Prop where
  /-- The first ones pass. -/
  passes : ∀ i < m, PassesAt r c' n plan i
  /-- They are written down. -/
  lines : report.sink.written = written ++ linesOf c (plan.take m)
  /-- All are done, or the next one fails. -/
  ends :
    (m = plan.length ∧ report.result = .ok (passed ++ plan.map (·.1.key)) ∧
      report.state.world.network = n.sent (requestsOf r c' plan)) ∨
    ∃ p f, plan[m]? = some p ∧ ¬ PassesAt r c' n plan m ∧
      report.result = .error f ∧ f.Names p.1.key ∧
      report.state.world.network = n.sent ((requestsOf r c' plan).take
        (if Http.Network.isTarget (r.flagRequest c' p.1.key).url then m + 1 else m))

theorem passesAt_zero {c : Context} {n : Http.Network} {p : Check × Json.Tree}
    {plan : List (Check × Json.Tree)} :
    PassesAt r c n (p :: plan) 0 ↔ p.1.PassesOn r c p.2 (n.reply n.count) := by
  simp [PassesAt]

/-- The checks after the first one meet the network after its request. -/
theorem passesAt_succ {c : Context} {n : Http.Network} {p : Check × Json.Tree}
    {plan : List (Check × Json.Tree)} (q : Http.Request) (i : Nat) :
    PassesAt r c n (p :: plan) (i + 1) ↔ PassesAt r c (n.sent [q]) plan i := by
  have hcount : n.count + (i + 1) = n.count + 1 + i := by omega
  simp [PassesAt, hcount]

/-- One check that passes comes before the ones that follow. -/
theorem EndsAfter.cons {c c' : Context} {n : Http.Network} {p : Check × Json.Tree}
    {plan : List (Check × Json.Tree)} {passed : List String} {written : List UInt8}
    {report : Report Providers} {m : Nat}
    (hpasses : p.1.PassesOn r c' p.2 (n.reply n.count))
    (h : EndsAfter r c c' (n.sent [r.flagRequest c' p.1.key]) plan (passed ++ [p.1.key])
      (written ++ Text.utf8 (passLine c p.1.key p.1.expected)) report m) :
    EndsAfter r c c' n (p :: plan) passed written report (m + 1) := by
  refine ⟨?_, ?_, ?_⟩
  · intro i hi
    cases i with
    | zero => exact passesAt_zero.mpr hpasses
    | succ i => exact (passesAt_succ _ i).mpr (h.passes i (by omega))
  · rw [h.lines]
    simp [linesOf]
  · rcases h.ends with ⟨rfl, hresult, hnetwork⟩ | ⟨p', f, hp', hfails, hresult, hnames, hnetwork⟩
    · refine .inl ⟨rfl, ?_, ?_⟩
      · rw [hresult]
        simp
      · rw [hnetwork]
        simp [requestsOf]
    · refine .inr ⟨p', f, by simpa using hp', ?_, hresult, hnames, ?_⟩
      · rwa [passesAt_succ (r.flagRequest c' p.1.key)]
      · rw [hnetwork]
        split <;> simp [requestsOf]

section

variable {c c' : Context} {n : Http.Network} {plan : List (Check × Json.Tree)}
  {passed : List String} {written : List UInt8} {report : Report Providers} {m : Nat}

/-- Only when all checks pass there are keys that passed. -/
theorem EndsAfter.passes_of_ok (h : EndsAfter r c c' n plan passed written report m)
    {keys : List String} (hkeys : report.result = .ok keys) :
    ∀ i < plan.length, PassesAt r c' n plan i := by
  rcases h.ends with ⟨rfl, -⟩ | ⟨p, f, -, -, hresult, -⟩
  · exact h.passes
  · simp [hresult] at hkeys

/-- When all checks pass, all are written down, and each has sent its request. -/
theorem EndsAfter.of_passes (h : EndsAfter r c c' n plan passed written report m)
    (hall : ∀ i < plan.length, PassesAt r c' n plan i) :
    report.result = .ok (passed ++ plan.map (·.1.key)) ∧
      report.state.world.network = n.sent (requestsOf r c' plan) ∧
      report.sink.written = written ++ linesOf c plan := by
  rcases h.ends with ⟨rfl, hresult, hnetwork⟩ | ⟨p, f, hp, hfails, -⟩
  · refine ⟨hresult, hnetwork, ?_⟩
    rw [h.lines, List.take_length]
  · obtain ⟨hm, -⟩ := List.getElem?_eq_some_iff.mp hp
    exact absurd (hall m hm) hfails

/-- The first check that does not pass is the one that the run ends with. -/
theorem EndsAfter.of_fails (h : EndsAfter r c c' n plan passed written report m) {i : Nat}
    (hi : i < plan.length) (hbefore : ∀ j < i, PassesAt r c' n plan j)
    (hfails : ¬ PassesAt r c' n plan i) :
    ∃ p f, plan[i]? = some p ∧ report.result = .error f ∧ f.Names p.1.key ∧
      report.state.world.network = n.sent ((requestsOf r c' plan).take
        (if Http.Network.isTarget (r.flagRequest c' p.1.key).url then i + 1 else i)) ∧
      report.sink.written = written ++ linesOf c (plan.take i) := by
  rcases h.ends with ⟨rfl, -⟩ | ⟨p, f, hp, hfailsHere, hresult, hnames, hnetwork⟩
  · exact absurd (h.passes i hi) hfails
  · obtain rfl : i = m := by
      rcases Nat.lt_trichotomy i m with hlt | heq | hgt
      · exact absurd (h.passes i hlt) hfails
      · exact heq
      · exact absurd (hbefore m hgt) hfailsHere
    exact ⟨p, f, hp, hresult, hnames, hnetwork, h.lines⟩

end

/-- **Checks one after the other.**  They are made until one fails. -/
theorem runChecks_spec (hr : r.AsksOnce) (hk : k.provider g = .remote place) (c : Context)
    {plan : List (Check × Json.Tree)} (hplan : ∀ p ∈ plan, p.1.Wants p.2)
    (hready : Ready r place ps) (hplain : ps.world.network.IsPlain) (passed : List String)
    {sink : Sink} (hroom : sink.room = none) :
    ∃ m, EndsAfter r c (k.effectiveContext g c) ps.world.network plan passed sink.written
      (runChecks (fun ps check => k.evaluate g ps check.key check.default c) c (plan.map (·.1))
        passed sink ps) m := by
  -- Induction on the plan; every check that passes leaves a provider that is ready for the next one.
  induction plan generalizing ps passed sink with
  | nil =>
    exact ⟨0, fun _ hi => absurd hi (Nat.not_lt_zero _), by simp [runChecks, linesOf],
      .inl ⟨rfl, by simp [runChecks], by simp [runChecks, requestsOf]⟩⟩
  | cons p plan ih =>
    obtain ⟨hnetwork, hcheck⟩ := evaluate_spec hr hready hplain hk (hplan p List.mem_cons_self) c
    obtain ⟨d, ps', ho⟩ : ∃ d ps', k.evaluate g ps p.1.key p.1.default c = (d, ps') := ⟨_, _, rfl⟩
    rw [ho] at hnetwork hcheck
    rw [List.map_cons, runChecks, ho]
    rcases hcheck with ⟨hpasses, hverdict, hready'⟩ | ⟨hfails, f, hverdict, hnames⟩
    · have hsent : ps'.world.network =
          ps.world.network.sent [r.flagRequest (k.effectiveContext g c) p.1.key] := by
        obtain ⟨s, ⟨htarget, -⟩, -⟩ := hpasses
        rw [hnetwork, if_pos htarget]
      have hplain' : ps'.world.network.IsPlain := by
        rw [hsent]
        exact hplain.later ⟨rfl, Nat.le_add_right _ _⟩
      have hroom' : ({ sink with
          written := sink.written ++ Text.utf8 (passLine c p.1.key p.1.expected) } : Sink).room =
            none := hroom
      obtain ⟨m, hm⟩ := ih (fun p hp => hplan p (List.mem_cons_of_mem _ hp)) hready' hplain'
        (passed ++ [p.1.key]) hroom'
      rw [hsent] at hm
      simp only [hverdict, Sink.write_of_room hroom]
      exact ⟨m + 1, hm.cons hpasses⟩
    · simp only [hverdict]
      refine ⟨0, fun _ hi => absurd hi (Nat.not_lt_zero _), by simp [linesOf], .inr ?_⟩
      refine ⟨p, f, rfl, by rwa [passesAt_zero], rfl, hnames, ?_⟩
      rw [hnetwork]
      split <;> simp [requestsOf]

end

/-! ### Building the provider -/

theorem fields_of_settings (config : Config) :
    config.settings.mode = .single ∧ config.settings.maxRetries = 0 := by
  unfold Config.settings
  cases config.token <;> cases config.timeout <;> exact ⟨rfl, rfl⟩

theorem mode_of_build {config : Config} {now : Instant} {r : Remote}
    (hbuild : config.settings.build now = .ok r) : r.mode = .single := by
  obtain ⟨-, -, -, hmode, -⟩ := Settings.build_eq_ok_iff.mp hbuild
  exact hmode.trans (fields_of_settings config).1

theorem asksOnce_of_build {config : Config} {now : Instant} {r : Remote}
    (hbuild : config.settings.build now = .ok r)
    (hscheme : Http.Network.isWebScheme r.base.scheme = true) : r.AsksOnce := by
  obtain ⟨-, -, -, -, -, hretries, -⟩ := Settings.build_eq_ok_iff.mp hbuild
  exact ⟨mode_of_build hbuild, hretries.trans (fields_of_settings config).2, hscheme⟩

/-- A provider that was built stands behind all others, and nothing was sent. -/
theorem build_of_ok {ps : Providers} {s : Settings} {r : Remote}
    (h : s.build ps.world.now.1 = .ok r) :
    ∃ now ps', ps.build s = (.ok (.remote ps.remotes.length), ps') ∧
      ps'.remotes = ps.remotes ++ [(r, .initial now)] ∧
      ps'.world.network = ps.world.network := by
  obtain ⟨now, w, hnow⟩ : ∃ now w, ps.world.now = (now, w) := ⟨_, _, rfl⟩
  have hnetwork : w.network = ps.world.network := by
    rw [show w = ps.world.now.2 by rw [hnow]]
    rfl
  rw [hnow] at h
  refine ⟨w.now.1, ⟨ps.remotes ++ [(r, .initial w.now.1)], w.now.2⟩, ?_, rfl, hnetwork⟩
  simp only [Providers.build, hnow, h, Providers.add]

/-- A provider that was just built is ready, and nothing was sent. -/
theorem ready_of_build {ps : Providers} {s : Settings} {r : Remote}
    (h : s.build ps.world.now.1 = .ok r) :
    ∃ ps', ps.build s = (.ok (.remote ps.remotes.length), ps') ∧
      Ready r ps.remotes.length ps' ∧ ps'.world.network = ps.world.network := by
  obtain ⟨now, ps', hps, hremotes, hnetwork⟩ := build_of_ok h
  refine ⟨ps', hps, ⟨.initial now, ?_, rfl⟩, hnetwork⟩
  rw [hremotes]
  simp

/-! ### Runs -/

/-- **A run on the wire.**  A run with a provider that was built, over an unencrypted connection on a
plain network, and with room for its lines, passes exactly when every check does: its place can be
named, and the reply to its request is a success that tells the wanted value.  Then one request was
sent for each check, in order.  If some check does not pass, the first such one is named, the ones
before it are written down, and nothing was sent beyond the requests up to it. -/
theorem run_iff_passes {s : Session} {config : Config} {r : Remote} {sink : Sink}
    (hbuild : config.settings.build s.providers.world.now.1 = .ok r)
    (hscheme : r.base.scheme = "http") (hplain : s.providers.world.network.IsPlain)
    (hroom : sink.room = none) :
    let report := s.run config sink
    let n := s.providers.world.network
    let n' := report.state.providers.world.network
    let c := (Client.registered none).effectiveContext s.registry defaultContext
    ((∃ keys, report.result = .ok keys) ↔ ∀ i < 3, PassesAt r c n defaultPlan i) ∧
    ((∀ i < 3, PassesAt r c n defaultPlan i) →
      report.result = .ok (defaultChecks.map (·.key)) ∧
        n' = n.sent (requestsOf r c defaultPlan) ∧
        report.sink.written = sink.written ++ linesOf defaultContext defaultPlan) ∧
    ∀ i < 3, (∀ j < i, PassesAt r c n defaultPlan j) → ¬ PassesAt r c n defaultPlan i →
      ∃ check f, defaultChecks[i]? = some check ∧ report.result = .error f ∧ f.Names check.key ∧
        n' = n.sent ((requestsOf r c defaultPlan).take
          (if Http.Network.isTarget (r.flagRequest c check.key).url then i + 1 else i)) ∧
        report.sink.written = sink.written ++ linesOf defaultContext (defaultPlan.take i) := by
  intro report n n' c
  have hweb : Http.Network.isWebScheme r.base.scheme = true := by rw [hscheme]; rfl
  have hr := asksOnce_of_build hbuild hweb
  obtain ⟨ps', hps, hready, hnetwork⟩ := ready_of_build hbuild
  obtain ⟨m, hm⟩ := runChecks_spec (k := .registered none)
    (g := s.registry.setProvider (.remote s.providers.remotes.length)) hr rfl defaultContext
    wants_defaultPlan hready (by rw [hnetwork]; exact hplain) [] hroom
  rw [hnetwork, defaultPlan_checks] at hm
  -- The report of the session says what the one of its checks says.
  have hreport : report = s.run config sink := rfl
  simp only [Session.run, hps, Session.check] at hreport
  refine ⟨⟨?_, ?_⟩, ?_, ?_⟩
  · rintro ⟨keys, hkeys⟩
    rw [hreport] at hkeys
    exact hm.passes_of_ok hkeys
  · intro hall
    rw [hreport]
    exact ⟨_, (hm.of_passes hall).1⟩
  · intro hall
    simp only [n', hreport]
    exact hm.of_passes hall
  · intro i hi hbefore hfails
    obtain ⟨p, f, hp, hresult, hnames, hsent, hwritten⟩ := hm.of_fails hi hbefore hfails
    simp only [n', hreport]
    exact ⟨p.1, f, by simp [← defaultPlan_checks, hp], hresult, hnames, hsent, hwritten⟩

/-! ### Replies that tell what is wanted -/

/-- An answer with success. -/
def told (body : String) : Http.Reply := .answered { status := 200, body := Text.utf8 body }

/-- A server that tells every check what it wants. -/
def wantedReply : Nat → Http.Reply
  | 0 => told "\x7b\"key\":\"FF-feature-y\",\"value\":true\x7d"
  | 1 => told "\x7b\"key\":\"FF-api-timeout\",\"value\":5000\x7d"
  | _ => told "\x7b\"key\":\"FF-log-level\",\"value\":\"debug\"\x7d"

/-- A session in the world with that server. -/
def wantedSession : Session :=
  { providers := { world := ⟨{ reply := wantedReply }, { reading := fun _ => ⟨0, 0⟩ }⟩ } }

theorem isPlain_wantedReply : wantedSession.providers.world.network.IsPlain := by
  constructor
  · intro i
    match i with
    | 0 | 1 | _ + 2 => simp [wantedSession, wantedReply, told]
  · intro i a ha hredirect
    have hstatus : a.status = 200 := by
      match i with
      | 0 | 1 | _ + 2 =>
        simp only [wantedSession, wantedReply, told, Http.Reply.answered.injEq] at ha
        rw [← ha]
    simp [hstatus, Http.Network.isRedirect] at hredirect

/-- A success whose value the check of a flag takes tells what the check wants. -/
theorem Check.Wants.exists_tells {check : Check} {t : Json.Tree} (hw : check.Wants t)
    (body : String)
    (h : (Remote.success? ⟨{ scheme := "http" }, { status := 200, body := Text.utf8 body }⟩).any
      (fun s => (check.default.type.accepts? (.ofJson s.value)).any (·.same check.expected)) =
        true) :
    ∃ s, (told body).Tells s ∧ s.value.tree = t := by
  obtain ⟨s, hs, haccepts⟩ := (Option.any_eq_true _ _).mp h
  obtain ⟨x, hx, hsame⟩ := (Option.any_eq_true _ _).mp haccepts
  obtain ⟨htree, -⟩ := (hw s.value x).mp ⟨hx, hsame⟩
  exact ⟨s, Http.Reply.tells_answered.mpr hs, htree⟩

theorem wantedReply_tells :
    ∀ i < 3, ∃ p s, defaultPlan[i]? = some p ∧ (wantedReply i).Tells s ∧ s.value.tree = p.2 := by
  intro i hi
  have hw (j : Fin 3) : (defaultPlan.get j).1.Wants (defaultPlan.get j).2 :=
    wants_defaultPlan _ (List.get_mem _ _)
  obtain ⟨s, hs⟩ :
      ∃ s, (wantedReply i).Tells s ∧ s.value.tree = (defaultPlan.get ⟨i, hi⟩).2 := by
    match i, hi with
    | 0, _ => exact (hw 0).exists_tells _ (by decide +kernel)
    | 1, _ => exact (hw 1).exists_tells _ (by decide +kernel)
    | 2, _ => exact (hw 2).exists_tells _ (by decide +kernel)
  exact ⟨_, s, List.getElem?_eq_getElem hi, hs⟩

/-- With the usual place of the server, every check of that session passes. -/
theorem passes_locally :
    ∃ r, ({} : Config).settings.build ⟨0, 0⟩ = .ok r ∧
      ∀ i < 3, PassesAt r ((Client.registered none).effectiveContext ∅ defaultContext)
        { reply := wantedReply } defaultPlan i := by
  have hbuild : (({} : Config).settings.build ⟨0, 0⟩).toOption.any
      (fun r => r.base.scheme == "http") = true := by decide +kernel
  have hrun : (wantedSession.run {} {}).result.isOk = true := by decide +kernel
  cases hr : ({} : Config).settings.build ⟨0, 0⟩ with
  | error f => simp [hr, Except.toOption] at hbuild
  | ok r =>
    have hscheme : r.base.scheme = "http" := by simpa [hr, Except.toOption] using hbuild
    have hbuilt : ({} : Config).settings.build wantedSession.providers.world.now.1 = .ok r := hr
    have hroom : ({} : Sink).room = none := rfl
    refine ⟨r, rfl, (run_iff_passes hbuilt hscheme isPlain_wantedReply hroom).1.mp ?_⟩
    cases hresult : (wantedSession.run {} {}).result with
    | error f => simp [hresult] at hrun
    | ok keys => exact ⟨keys, rfl⟩

/-- **A run that fails although all replies tell what is wanted.**  The place of its server is accepted,
but no request can name the host. -/
theorem not_run_of_told :
    ¬ ∀ (s : Session) (config : Config) (r : Remote) (sink : Sink),
      config.settings.build s.providers.world.now.1 = .ok r → r.base.scheme = "http" →
      s.providers.world.network.IsPlain → sink.room = none →
      (∀ i < 3, ∃ p t, defaultPlan[i]? = some p ∧
        (s.providers.world.network.reply (s.providers.world.network.count + i)).Tells t ∧
        t.value.tree = p.2) →
      ∃ keys, (s.run config sink).result = .ok keys := by
  intro h
  have hbuild : (({ baseUrl := "http://a\x7bb" } : Config).settings.build ⟨0, 0⟩).toOption.any
      (fun r => r.base.scheme == "http") = true := by decide +kernel
  have hrun : (wantedSession.run { baseUrl := "http://a\x7bb" } {}).result.isOk = false := by
    decide +kernel
  cases hr : ({ baseUrl := "http://a\x7bb" } : Config).settings.build ⟨0, 0⟩ with
  | error f => simp [hr, Except.toOption] at hbuild
  | ok r =>
    have hscheme : r.base.scheme = "http" := by simpa [hr, Except.toOption] using hbuild
    have htold : ∀ i < 3, ∃ p t, defaultPlan[i]? = some p ∧
        (wantedReply (0 + i)).Tells t ∧ t.value.tree = p.2 := by
      intro i hi
      rw [Nat.zero_add]
      exact wantedReply_tells i hi
    obtain ⟨keys, hkeys⟩ := h wantedSession _ r {} hr hscheme isPlain_wantedReply rfl htold
    simp [hkeys] at hrun

end Smoke
end RemoteFlags
