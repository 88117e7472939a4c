import RemoteFlags.Proofs.Bulk.Call

/-!
# Contacts with the server

Every call that needs the server goes the same way, whether it asks for one flag or for all: it
looks whether a pause is on, sends its request if none is, and begins a new pause if the server asks
for one.  A *contact* is one time that this happened.  It holds two readings of the clock and what
came back, and nothing of the provider.

## Main definitions

* `Contact`, with `Contact.resume?` — contacts, and the end of the pause that one asked for.
* `Call.make` — the calls of a provider in any mode; `Call.contact?` — the contact that a call
  makes.
* `Remote.Follows st w e o` — an operation made one contact, and nothing else outside the cache.

## Main results

* `resume?_eq_some_iff` — which contacts ask for a pause, and until when.
* `Call.follows_make` — **the step**: a call that needs the server follows its contact.
* `Call.make_of_no_contact` — all other calls are answered from the cache.
-/

namespace RemoteFlags

/-! ### Pauses -/

namespace Pause

theorem pausedUntil?_eq_some_iff {pause : Option Instant} {now u : Instant} :
    pausedUntil? pause now = some u ↔ pause = some u ∧ now < u := by
  simp [pausedUntil?, Option.filter_eq_some_iff]

/-- The end of the pause that a response asks for, if it does. -/
def ofResponse? (res : Http.Response) (now : Instant) : Option Instant :=
  if res.status = 429 then some (resumeInstant (res.headerText? "retry-after") now) else none

theorem ofResponse?_of_success {res : Http.Response} (h : Http.isSuccess res.status = true)
    (now : Instant) : ofResponse? res now = none := by
  have hstatus : res.status ≠ 429 := by
    intro hstatus
    simp [hstatus, Http.isSuccess] at h
  exact if_neg hstatus

/-- A pause of a number of seconds ends no sooner than it begins. -/
theorem le_of_requestedEnd? {text : String} {now u : Instant}
    (hseconds : (seconds? (Text.trim text)).isSome = true) (h : requestedEnd? text now = some u) :
    now ≤ u := by
  obtain ⟨n, hn⟩ := Option.isSome_iff_exists.mp hseconds
  simp only [requestedEnd?, hn, Instant.after?] at h
  split at h
  · obtain rfl := Option.some.inj h
    show ¬ Instant.IsBefore _ _
    simp only [Instant.IsBefore, Instant.plus]
    omega
  · simp at h

/-! ### Contacts -/

/-- One time that a provider needed the server. -/
structure Contact where
  /-- The reading of the clock when it looked whether a pause is on. -/
  asked : Instant
  /-- The response, if one came. -/
  response : Option Http.Response
  /-- The reading of the clock once the server was asked. -/
  time : Instant

/-- The end of the pause that the server asked for. -/
def Contact.resume? (e : Contact) : Option Instant :=
  e.response.bind fun res => ofResponse? res e.time

/-- **Which contacts ask for a pause, and until when**: those with status 429, until what the server
says if that is understood, and for ten seconds otherwise. -/
theorem resume?_eq_some_iff {e : Contact} {u : Instant} :
    e.resume? = some u ↔ ∃ res, e.response = some res ∧ res.status = 429 ∧
      ((∃ text, res.headerText? "retry-after" = some text ∧ requestedEnd? text e.time = some u) ∨
        ((∀ text, res.headerText? "retry-after" = some text → requestedEnd? text e.time = none) ∧
          u = e.time.plus 10)) := by
  have hresume : ∀ value : Option String, resumeInstant value e.time = u ↔
      (∃ text, value = some text ∧ requestedEnd? text e.time = some u) ∨
        ((∀ text, value = some text → requestedEnd? text e.time = none) ∧ u = e.time.plus 10) := by
    intro value
    cases value with
    | none => simp [resumeInstant, defaultLength, eq_comm]
    | some text =>
      cases hend : requestedEnd? text e.time with
      | none => simp [resumeInstant, hend, defaultLength, eq_comm]
      | some v => simp [resumeInstant, hend]
  cases hres : e.response with
  | none => simp [Contact.resume?, hres]
  | some res =>
    by_cases hstatus : res.status = 429
    · simp [Contact.resume?, hres, ofResponse?, hstatus, hresume]
    · simp [Contact.resume?, hres, ofResponse?, hstatus]

end Pause

/-! ### Operations that make one contact -/

namespace Remote

open Pause (Contact)

/-- The contact that is made by asking the server. -/
def contact (r : Remote) (pause : Option Instant) (u : Url) (c : Context) (mark : Option String)
    (w : World) : Contact where
  asked := w.now.1
  response := (r.post pause u c mark w).1.toOption
  time := (r.post pause u c mark w).2.now.1

/-- An operation made one contact: it went the way of the pause, and touched the pause only if the
server asked for a new one. -/
structure Follows {α : Type} (st : State) (w : World) (e : Contact) (o : Outcome α) : Prop where
  /-- The world went on. -/
  later : w.Later o.world
  /-- The clock was read in between, once before the server was asked and once afterwards. -/
  readings : ∃ n m, w.clock.taken ≤ n ∧ n < m ∧ m ≤ o.world.clock.taken ∧
    e.asked = w.clock.reading n ∧ e.time = w.clock.reading m
  /-- A response only comes while no pause is on. -/
  unpaused : e.response.isSome = true → Pause.pausedUntil? st.pause e.asked = none
  /-- The pause is the one that the server asked for, or else stays. -/
  pause : o.state.pause = e.resume?.or st.pause
  /-- Nothing is sent, and a pause is told, exactly when one is on. -/
  refused : ∀ u, o.result = .error (.rateLimited u) ∧ o.world.network = w.network ↔
    Pause.pausedUntil? st.pause e.asked = some u

section

variable {r : Remote} {st : State} {pause : Option Instant} {u : Url} {c : Context}
  {mark : Option String} {w w' : World} {res : Http.Response}

theorem post_of_paused {t : Instant} (h : Pause.pausedUntil? pause w.now.1 = some t) :
    r.post pause u c mark w = (.error (.rateLimited t), w.now.2) := by
  rw [post_eq, h]

theorem paused_of_post {t : Instant} (h : (r.post pause u c mark w).1 = .error (.rateLimited t)) :
    Pause.pausedUntil? pause w.now.1 = some t := by
  rw [post_eq] at h
  cases hp : Pause.pausedUntil? pause w.now.1 with
  | some t' =>
    obtain rfl : t' = t := by simpa [hp] using h
    rfl
  | none =>
    simp only [hp] at h
    obtain ⟨f, -, hf⟩ := mapError_eq_error_iff.mp h
    cases hf

/-- A contact holds the next two readings of the clock. -/
theorem readings_contact (r : Remote) (pause : Option Instant) (u : Url) (c : Context)
    (mark : Option String) (hw : w.Later w') :
    (r.contact pause u c mark w').asked = w.clock.reading w'.clock.taken ∧
      (r.contact pause u c mark w').time = w.clock.reading (w'.clock.taken + 1) ∧
      (r.post pause u c mark w').2.clock.taken = w'.clock.taken + 1 := by
  have hclock : (r.post pause u c mark w').2.clock = w'.now.2.clock := clock_post
  have htaken : (r.post pause u c mark w').2.clock.taken = w'.clock.taken + 1 := by
    rw [hclock, World.taken_now]
  have hreading : (r.post pause u c mark w').2.clock.reading = w.clock.reading := by
    rw [hclock, World.reading_now, hw.reading]
  refine ⟨?_, ?_, htaken⟩
  · show w'.clock.reading w'.clock.taken = _
    rw [hw.reading]
  · show (r.post pause u c mark w').2.clock.reading (r.post pause u c mark w').2.clock.taken = _
    rw [hreading, htaken]

/-- An operation that asks the server, and does what its answer says, follows the contact. -/
theorem follows_contact {α : Type} {o : Outcome α} (hw : w.Later w')
    (hnetwork : w'.network = w.network)
    (hlater : (r.post st.pause u c mark w').2.Later o.world)
    (hsent : o.world.network = (r.post st.pause u c mark w').2.network)
    (herror : ∀ e, (r.post st.pause u c mark w').1 = .error e →
      o.result = .error e ∧ o.state.pause = st.pause)
    (hok : ∀ res, (r.post st.pause u c mark w').1 = .ok res → o.state.pause =
      (Pause.ofResponse? res (r.post st.pause u c mark w').2.now.1).or st.pause) :
    Follows st w (r.contact st.pause u c mark w') o := by
  obtain ⟨hasked, htime, htaken⟩ := readings_contact r st.pause u c mark hw
  -- A response has used up a reply of the network, so the network is not the one before.
  have hanswered : ∀ res, (r.post st.pause u c mark w').1 = .ok res →
      o.world.network ≠ w.network := by
    intro res hres heq
    obtain ⟨i, hle, hlt, -⟩ := answered_of_post hres
    rw [← hsent, heq] at hlt
    rw [hnetwork] at hle
    omega
  refine ⟨hw.trans (later_post.trans hlater),
    ⟨w'.clock.taken, w'.clock.taken + 1, hw.taken, Nat.lt_succ_self _, ?_, hasked, htime⟩,
    ?_, ?_, ?_⟩
  · rw [← htaken]
    exact hlater.taken
  · intro hsome
    cases hp : Pause.pausedUntil? st.pause w'.now.1 with
    | none => exact hp
    | some t => simp [contact, post_of_paused hp, Except.toOption] at hsome
  · cases hpost : (r.post st.pause u c mark w').1 with
    | error e =>
      rw [(herror e hpost).2]
      simp [contact, Contact.resume?, hpost, Except.toOption]
    | ok res =>
      rw [hok res hpost]
      simp [contact, Contact.resume?, hpost, Except.toOption]
  · intro t
    constructor
    · rintro ⟨hresult, hsame⟩
      cases hpost : (r.post st.pause u c mark w').1 with
      | ok res => exact absurd hsame (hanswered res hpost)
      | error e =>
        obtain rfl : e = .rateLimited t :=
          Except.error.inj ((herror e hpost).1.symm.trans hresult)
        exact paused_of_post hpost
    · intro hp
      have hpost : r.post st.pause u c mark w' = (.error (.rateLimited t), w'.now.2) :=
        post_of_paused hp
      refine ⟨(herror _ (by rw [hpost])).1, ?_⟩
      rw [hsent, hpost, World.network_now, hnetwork]

/-! ### One flag at a time -/

theorem pause_refused {α : Type} (st : State) (key : Option String) (res : Http.Response)
    (w : World) :
    (refused st key res w : Outcome α).state.pause =
      (Pause.ofResponse? res w.now.1).or st.pause := by
  unfold refused Pause.ofResponse?
  split <;> rfl

theorem follows_resolveSingle (r : Remote) (st : State) (key : String) (c : Context) (w : World) :
    Follows st w (r.contact st.pause (r.endpoint (some key)) c none w)
      (r.resolveSingle st key c w) := by
  apply follows_contact (.refl w) rfl
  · exact later_resolveSingle r st key c w
  · exact network_resolveSingle r st key c w
  · intro e he
    rw [resolveSingle_eq, he]
    exact ⟨rfl, rfl⟩
  · intro res hres
    rw [resolveSingle_eq, hres]
    dsimp only
    split
    · next hsuccess =>
      rw [Pause.ofResponse?_of_success hsuccess]
      rfl
    · exact pause_refused _ _ _ _

/-! ### All flags at once -/

/-- The contact that a refetch makes. -/
def bulkContact (r : Remote) (st : State) (c : Context) (w : World) : Contact :=
  r.contact st.pause (r.endpoint none) c (prepared st c w).1 (prepared st c w).2.2

theorem pause_takeBulk (r : Remote) (st : State) (c : Context) (res : Http.Response) (w : World) :
    (r.takeBulk st c res w).state.pause = (Pause.ofResponse? res w.now.1).or st.pause := by
  rw [takeBulk]
  split
  · next hstatus =>
    have hnone : Pause.ofResponse? res w.now.1 = none := if_neg (by omega)
    rw [hnone]
    rfl
  split
  · next hsuccess =>
    rw [Pause.ofResponse?_of_success hsuccess]
    split
    · rfl
    split <;> rfl
  · exact pause_refused _ _ _ _

theorem follows_refetch (r : Remote) (st : State) (c : Context) (w : World) :
    Follows st w (r.bulkContact st c w) (r.refetch st c w) := by
  rw [refetch_eq]
  apply follows_contact (later_prepared st c w) (network_prepared st c w)
  · cases hpost : (r.bulkPost st c w).1 with
    | error e => exact .refl _
    | ok res => exact later_takeBulk _ _ _ _ _
  · cases hpost : (r.bulkPost st c w).1 with
    | error e => rfl
    | ok res => exact network_takeBulk _ _ _ _ _
  · intro e he
    have hpost : (r.bulkPost st c w).1 = .error e := he
    rw [hpost]
    exact ⟨rfl, pause_prepared st c w⟩
  · intro res hres
    have hpost : (r.bulkPost st c w).1 = .ok res := hres
    rw [hpost]
    dsimp only
    rw [pause_takeBulk, pause_prepared]
    rfl

/-- What an operation does with the result of another one plays no role, if it keeps the
failures. -/
theorem Follows.congr {α β : Type} {e : Contact} {o : Outcome α} {o' : Outcome β}
    (h : Follows st w e o) (hstate : o'.state = o.state) (hworld : o'.world = o.world)
    (hresult : ∀ t, o'.result = .error (.rateLimited t) ↔ o.result = .error (.rateLimited t)) :
    Follows st w e o' := by
  refine ⟨hworld ▸ h.later, hworld ▸ h.readings, h.unpaused, hstate ▸ h.pause, ?_⟩
  intro t
  rw [hresult, hworld]
  exact h.refused t

theorem Follows.of_later {α : Type} {e : Contact} {o : Outcome α} (hw : w.Later w')
    (hnetwork : w'.network = w.network) (h : Follows st w' e o) : Follows st w e o := by
  obtain ⟨n, m, hn, hm, hend, hasked, htime⟩ := h.readings
  refine ⟨hw.trans h.later, ⟨n, m, Nat.le_trans hw.taken hn, hm, hend, ?_, ?_⟩, h.unpaused, h.pause,
    hnetwork ▸ h.refused⟩
  · rw [hasked, hw.reading]
  · rw [htime, hw.reading]

end

end Remote

/-! ### Calls -/

namespace Bulk.Call

open Remote (State Outcome Follows)
open Pause (Contact)

/-- Does a call of a provider in any mode. -/
def make (r : Remote) (st : State) (w : World) : Call → Outcome Told
  | .resolve key c => (r.resolve st key c w).map .value
  | .list c => (r.list st c w).map .values

/-- Whether a call is answered from the cache: all are, but those for one flag of a provider that
asks for one flag at a time. -/
def isCached (r : Remote) : Call → Bool
  | .resolve _ _ => r.mode == .bulk
  | .list _ => true

/-- The contact that a call makes, if it needs the server. -/
def contact? (r : Remote) (st : State) (w : World) (k : Call) : Option Contact :=
  match k with
  | .resolve key c =>
    match r.mode with
    | .single => some (r.contact st.pause (r.endpoint (some key)) c none w)
    | .bulk => ((Call.resolve key c).asking? st w).map (r.bulkContact st c)
  | .list c => ((Call.list c).asking? st w).map (r.bulkContact st c)

variable {r : Remote} {st : State} {w : World} {k : Call} {e : Contact}

theorem make_of_isCached (h : k.isCached r = true) (st : State) (w : World) :
    k.make r st w = k.perform r st w := by
  cases k with
  | resolve key c =>
    have hmode : r.mode = .bulk := by simpa [isCached] using h
    rw [make, perform_resolve hmode]
  | list c => rfl

theorem contact?_of_isCached (h : k.isCached r = true) (st : State) (w : World) :
    k.contact? r st w = (k.asking? st w).map (r.bulkContact st k.context) := by
  cases k with
  | resolve key c =>
    have hmode : r.mode = .bulk := by simpa [isCached] using h
    simp only [contact?, hmode]
    rfl
  | list c => rfl

/-- A call that is not answered from the cache is a request for one flag. -/
theorem exists_resolveSingle (h : k.isCached r = false) (st : State) (w : World) :
    ∃ key c, k = .resolve key c ∧ k.make r st w = (r.resolveSingle st key c w).map .value ∧
      k.contact? r st w = some (r.contact st.pause (r.endpoint (some key)) c none w) := by
  cases k with
  | resolve key c =>
    have hmode : r.mode = .single := by
      cases hr : r.mode with
      | single => rfl
      | bulk => simp [isCached, hr] at h
    refine ⟨key, c, rfl, ?_, ?_⟩
    · rw [make, Remote.resolve, hmode]
    · simp only [contact?, hmode]
  | list c => simp [isCached] at h

/-- A call that makes no contact is answered from the cache, and changes nothing. -/
theorem make_of_no_contact (h : k.contact? r st w = none) :
    (k.make r st w).result = k.answer st.cache ∧ (k.make r st w).state = st ∧
      w.Later (k.make r st w).world ∧ (k.make r st w).world.network = w.network := by
  cases hcached : k.isCached r with
  | false =>
    obtain ⟨key, c, -, -, hcontact⟩ := exists_resolveSingle hcached st w
    rw [h] at hcontact
    cases hcontact
  | true =>
    have hasking : k.asking? st w = none := by
      rw [contact?_of_isCached hcached] at h
      simpa using h
    rw [make_of_isCached hcached]
    exact (perform_of_answers r hasking).2

/-- **The step.**  A call that needs the server follows its contact. -/
theorem follows_make (h : k.contact? r st w = some e) : Follows st w e (k.make r st w) := by
  cases hcached : k.isCached r with
  | false =>
    obtain ⟨key, c, -, hmake, hcontact⟩ := exists_resolveSingle hcached st w
    rw [hcontact] at h
    obtain rfl := Option.some.inj h
    rw [hmake]
    refine (Remote.follows_resolveSingle r st key c w).congr rfl rfl ?_
    intro t
    cases hresult : (r.resolveSingle st key c w).result <;>
      simp [Outcome.map, hresult, Except.map]
  | true =>
    rw [contact?_of_isCached hcached] at h
    obtain ⟨w', hasking, rfl⟩ := Option.map_eq_some_iff.mp h
    rw [make_of_isCached hcached, perform_of_asks r hasking]
    refine Follows.of_later (stale_of_asking? hasking).1 (network_of_asking? hasking) ?_
    refine (Remote.follows_refetch r st k.context w').congr
      (Outcome.state_answering _ _) (Outcome.world_answering _ _) ?_
    -- The cache never answers that there is a pause.
    intro t
    cases hresult : (r.refetch st k.context w').result with
    | error e => simp [Outcome.answering, hresult]
    | ok _ =>
      simp only [Outcome.answering, hresult]
      constructor
      · intro hanswer
        obtain ⟨code, details, hevaluation⟩ := eq_evaluation_of_answer hanswer
        cases hevaluation
      · intro hok
        cases hok

end Bulk.Call

end RemoteFlags
