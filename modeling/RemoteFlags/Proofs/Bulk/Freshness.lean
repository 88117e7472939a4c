import RemoteFlags.Proofs.Bulk.Run

/-!
# How long answers are used

A call is served from the cache when it is answered without asking the server, and nothing changes
thereby.  Under a clock that does not go back, this happens exactly when the last thing that the
server was asked confirmed the entries for the context of the call, and did so not longer ago than
the lifetime.

## Main definitions

* `Call.Served` — a call is served from the cache.
* `Run.Spent` — once the newest inquiry confirmed nothing, the entries cannot be used any more.

## Main results

* `Call.served_iff` — a call is served exactly when it does not start to ask the server.
* `Run.spent_after` — entries that were once too old stay so.
* `served_iff_confirmed` — **exact hits and bounded staleness.**
-/

namespace RemoteFlags

/-! ### Fresh entries -/

theorem Cache.needsRefresh_of_le {c : Cache} {context : Context} {t t' : Instant} (h : t ≤ t')
    (hfresh : c.needsRefresh context t' = false) : c.needsRefresh context t = false := by
  obtain ⟨hfor, hle⟩ := needsRefresh_eq_false_iff.mp hfresh
  exact needsRefresh_eq_false_iff.mpr ⟨hfor, Instant.le_trans h hle⟩

/-- Contexts that are equal can stand for each other. -/
theorem Cache.needsRefresh_congr {cache : Cache} {c d : Context} (h : c.same d = true)
    (now : Instant) : cache.needsRefresh c now = cache.needsRefresh d now := by
  have hfor : cache.isFor c = cache.isFor d := by
    rw [Bool.eq_iff_iff, isFor_iff, isFor_iff]
    refine exists_congr fun e => and_congr_right fun _ => ?_
    exact ⟨fun hc => Context.same_trans hc h, fun hd => Context.same_trans hd (Context.same_symm h)⟩
  rw [needsRefresh, needsRefresh, hfor]

theorem Cache.deadline_lt_of_needsRefresh {c : Cache} {context : Context} {t : Instant}
    (hfor : c.isFor context = true) (h : c.needsRefresh context t = true) : c.deadline < t := by
  simpa [needsRefresh, hfor] using h

namespace Remote

/-- A failure that comes before any response: a pause, or a fault of the exchange. -/
def IsSilent (e : FlagError) : Prop := (∃ t, e = .rateLimited t) ∨ ∃ f, e = .http f

/-- A refetch that hands no request to the network fails. -/
theorem refetch_of_no_request {r : Remote} {st : State} {c : Context} {w : World}
    (h : (r.refetch st c w).world.network.count ≤ w.network.count) :
    ∃ e, (r.refetch st c w).result = .error e ∧ IsSilent e := by
  rw [refetch_eq] at h ⊢
  cases hpost : (r.bulkPost st c w).1 with
  | error e => exact ⟨e, rfl, error_of_post hpost⟩
  | ok res =>
    obtain ⟨i, hle, hlt, -⟩ := answered_of_post hpost
    simp only [hpost, network_takeBulk] at h
    rw [network_prepared] at hle
    have hcount : w.network.count < (r.bulkPost st c w).2.network.count :=
      Nat.lt_of_le_of_lt hle hlt
    omega

end Remote

namespace Bulk

open Remote (State IsSilent)

/-! ### Calls that are served from the cache -/

namespace Call

/-- A call is served from the cache: it is told what the cache holds, and neither the provider nor
the network changes. -/
structure Served (r : Remote) (st : State) (w : World) (k : Call) : Prop where
  /-- The result is the answer of the cache. -/
  result : (k.perform r st w).result = k.answer st.cache
  /-- The provider stays as it is. -/
  state : (k.perform r st w).state = st
  /-- The network stays as it is. -/
  network : (k.perform r st w).world.network = w.network

variable {r : Remote} {st : State} {w : World} {k : Call}

/-- A cache never answers that there is a pause, or a fault of an exchange. -/
theorem not_silent_of_answer {c : Cache} {e : FlagError} (h : k.answer c = .error e) :
    ¬ IsSilent e := by
  obtain ⟨code, details, rfl⟩ := eq_evaluation_of_answer h
  rintro (⟨t, ht⟩ | ⟨f, hf⟩)
  · simp at ht
  · simp at hf

/-- A call that hands no request to the network does not start to ask, or fails before any response
comes. -/
theorem asks_of_no_request (h : (k.perform r st w).world.network = w.network) :
    k.asking? st w = none ∨ ∃ e, (k.perform r st w).result = .error e ∧ IsSilent e := by
  cases hk : k.asking? st w with
  | none => exact .inl rfl
  | some w' =>
    -- A response would have used up a reply of the network.
    right
    obtain ⟨hlater, -⟩ := stale_of_asking? hk
    rw [world_of_asks r hk] at h
    have hcount : (r.refetch st k.context w').world.network.count ≤ w'.network.count := by
      rw [h]
      exact hlater.network.count
    obtain ⟨e, he, hsilent⟩ := Remote.refetch_of_no_request hcount
    exact ⟨e, by simp [perform_of_asks r hk, Remote.Outcome.answering, he], hsilent⟩

/-- A call is served from the cache exactly when it does not start to ask the server. -/
theorem served_iff : k.Served r st w ↔ k.asking? st w = none := by
  constructor
  · intro h
    rcases asks_of_no_request h.network with hk | ⟨e, he, hsilent⟩
    · exact hk
    · exact absurd hsilent (not_silent_of_answer (h.result.symm.trans he))
  · intro h
    obtain ⟨-, hresult, hstate, -, hnetwork⟩ := perform_of_answers r h
    exact ⟨hresult, hstate, hnetwork⟩

/-- A cache that is fresh at the first look is not asked about again. -/
theorem asking?_of_fresh (h : st.cache.needsRefresh k.context w.now.1 = false) :
    k.asking? st w = none := by
  cases k with
  | list c =>
    have hfirst : st.cache.needsRefresh c w.now.1 = false := h
    simp [asking?, hfirst]
  | resolve key c =>
    have hfirst : st.cache.needsRefresh c w.now.1 = false := h
    simp [asking?, hfirst]

theorem served_of_fresh (h : st.cache.needsRefresh k.context w.now.1 = false) : k.Served r st w :=
  served_iff.mpr (asking?_of_fresh h)

/-- With a clock that does not go back, the first look at it decides. -/
theorem asking?_eq_none_iff (hclock : w.clock.IsMonotone) :
    k.asking? st w = none ↔ st.cache.needsRefresh k.context w.now.1 = false := by
  refine ⟨fun h => ?_, asking?_of_fresh⟩
  cases k with
  | list c => simpa [asking?, context] using h
  | resolve key c =>
    have hle : w.now.1 ≤ w.now.2.now.1 := hclock _ _ (Nat.le_succ _)
    cases hfirst : st.cache.needsRefresh c w.now.1 with
    | false => exact hfirst
    | true =>
      have hsecond : st.cache.needsRefresh c w.now.2.now.1 = false := by
        simpa [asking?, hfirst] using h
      exact Cache.needsRefresh_of_le hle hsecond

end Call

/-! ### Entries that are too old -/

namespace Run

/-- When the newest inquiry confirmed nothing, the deadline of the entries has passed. -/
def Spent (r : Remote) (x : Run) : Prop :=
  ∀ i older l, x.log = i :: older → i.confirms r.lifetime = false →
    ledger r.lifetime x.log = some l → ∀ n, x.world.clock.taken ≤ n →
      l.confirmed.time.plus r.lifetime < x.world.clock.reading n

variable {r : Remote} {w : World} {x : Run}

/-- **The step.**  A call only asks the server when the deadline has passed, or for another context;
the latter closes the ledger, unless the server confirms something. -/
theorem spent_step (hclock : w.clock.IsMonotone) (h : Inv r w x) (hspent : Spent r x) (k : Call) :
    Spent r (x.step r k) := by
  have hlater : x.world.Later (x.step r k).world := k.later_perform r x.state x.world
  intro i older l hlog hconfirms hl n hn
  rw [hlater.reading]
  cases hk : k.asking? x.state x.world with
  | none =>
    -- The log stays, and fewer readings lie ahead.
    rw [log_step_of_answers hk] at hlog hl
    exact hspent i older l hlog hconfirms hl n (Nat.le_trans hlater.taken hn)
  | some w' =>
    have hasked := log_step_of_asks (r := r) hk
    have hmarked := (inv_step h k).marked
    rw [hasked] at hlog hl hmarked
    obtain ⟨rfl, rfl⟩ := List.cons.inj hlog
    -- The ledger stays open only for the context of the call, so the deadline was the reason to ask.
    obtain ⟨l', hl', hsame, hsameTime⟩ := ledger_of_not_confirms hmarked hconfirms hl
    have hcache := h.cache_eq hl'
    obtain ⟨-, m, hfrom, hto, hstale⟩ := Call.stale_of_asking? hk
    have hfor : x.state.cache.isFor k.context = true := by
      rw [hcache]
      exact Cache.isFor_iff.mpr ⟨_, rfl, hsame⟩
    have hdeadline := Cache.deadline_lt_of_needsRefresh hfor hstale
    rw [hcache] at hdeadline
    -- The reading that was too late lies before all those ahead.
    have htaken : w'.clock.taken ≤ (x.step r k).world.clock.taken := by
      have hworld : (x.step r k).world = (r.refetch x.state k.context w').world :=
        Call.world_of_asks r hk
      rw [hworld]
      exact (Remote.later_refetch r x.state k.context w').taken
    have hreading : x.world.clock.reading m ≤ x.world.clock.reading n := by
      rw [h.later.reading]
      exact hclock m n (by omega)
    rw [← hsameTime]
    exact Instant.lt_of_lt_of_le hdeadline hreading

theorem spent_foldl (hclock : w.clock.IsMonotone) (h : Inv r w x) (hspent : Spent r x)
    (ks : List Call) : Spent r (ks.foldl (step r) x) := by
  induction ks generalizing x with
  | nil => exact hspent
  | cons k ks ih => exact ih (inv_step h k) (spent_step hclock h hspent k)

/-- **Entries that were once too old stay so**, until the server confirms some. -/
theorem spent_after (hclock : w.clock.IsMonotone) (ks : List Call) : Spent r (after r w ks) :=
  spent_foldl hclock (inv_start r w) (fun _ _ _ hlog => nomatch hlog) ks

/-- The cache is fresh for a context exactly when the newest inquiry confirmed its entries for the
context, not longer ago than the lifetime. -/
theorem fresh_iff (h : Inv r w x) (hspent : Spent r x) (c : Context) :
    x.state.cache.needsRefresh c x.world.now.1 = false ↔
      ∃ i older, x.log = i :: older ∧ i.confirms r.lifetime = true ∧ i.context.same c = true ∧
        x.world.now.1 ≤ i.time.plus r.lifetime := by
  constructor
  · intro hfresh
    obtain ⟨hfor, hle⟩ := Cache.needsRefresh_eq_false_iff.mp hfresh
    obtain ⟨d, hd, hsame⟩ := Cache.isFor_iff.mp hfor
    obtain ⟨l, hl, hcache, rfl⟩ := h.exists_ledger hd
    rw [hcache] at hle
    cases hlog : x.log with
    | nil => simp [hlog, ledger] at hl
    | cons i older =>
      cases hconfirms : i.confirms r.lifetime with
      | false =>
        -- The deadline lies before every reading to come, so also before this one.
        have hlt := hspent i older l hlog hconfirms hl _ (Nat.le_refl _)
        exact absurd hlt hle
      | true =>
        have hmarked := h.marked
        rw [hlog] at hmarked hl
        obtain ⟨l', hl', hconfirmed, hstored⟩ := ledger_of_confirms hmarked hconfirms
        obtain rfl : l' = l := Option.some.inj (hl'.symm.trans hl)
        refine ⟨i, older, rfl, hconfirms, ?_, hconfirmed ▸ hle⟩
        exact Context.same_trans (Context.same_symm hstored) hsame
  · rintro ⟨i, older, hlog, hconfirms, hsame, hle⟩
    have hmarked := h.marked
    rw [hlog] at hmarked
    obtain ⟨l, hl, hconfirmed, hstored⟩ := ledger_of_confirms hmarked hconfirms
    rw [← hlog] at hl
    rw [h.cache_eq hl]
    refine Cache.needsRefresh_eq_false_iff.mpr ⟨Cache.isFor_iff.mpr ⟨_, rfl, ?_⟩, ?_⟩
    · exact Context.same_trans hstored hsame
    · rw [← hconfirmed] at hle
      exact hle

end Run

/-! ### Hits and staleness -/

/-- **Exact hits and bounded staleness.**  After every run under a clock that does not go back, a call
is served from the cache exactly when the newest inquiry, whoever made it, confirmed the entries for
a context that equals the one of the call, at a time that lies not longer ago than the lifetime.  A
call that is served adds nothing to the log, so the time of confirmation stays; every other call adds
an inquiry for its own context on top; and a call that hands no request to the network without being
served fails before any response comes. -/
theorem served_iff_confirmed (r : Remote) {w : World} (hclock : w.clock.IsMonotone)
    (ks : List Call) (k : Call) :
    let x := Run.after r w ks
    let y := x.step r k
    (k.Served r x.state x.world ↔
      ∃ i older, x.log = i :: older ∧ i.confirms r.lifetime = true ∧
        i.context.same k.context = true ∧ x.world.now.1 ≤ i.time.plus r.lifetime) ∧
    (k.Served r x.state x.world → y.log = x.log) ∧
    (¬ k.Served r x.state x.world →
      ∃ i, y.log = i :: x.log ∧ i.context = k.context ∧ i.MadeBy r w) ∧
    (y.world.network = x.world.network → k.Served r x.state x.world ∨
      ∃ e, (k.perform r x.state x.world).result = .error e ∧ IsSilent e) := by
  intro x y
  have hx : Run.Inv r w x := Run.inv_after r w ks
  have hy : Run.Inv r w y := Run.inv_step hx k
  have hlaterClock : x.world.clock.IsMonotone := by
    intro i j hij
    rw [hx.later.reading]
    exact hclock i j hij
  refine ⟨?_, ?_, ?_, ?_⟩
  · calc k.Served r x.state x.world
      _ ↔ k.asking? x.state x.world = none := Call.served_iff
      _ ↔ x.state.cache.needsRefresh k.context x.world.now.1 = false :=
        Call.asking?_eq_none_iff hlaterClock
      _ ↔ _ := Run.fresh_iff hx (Run.spent_after hclock ks) k.context
  · intro hserved
    exact Run.log_step_of_answers (Call.served_iff.mp hserved)
  · intro hserved
    cases hk : k.asking? x.state x.world with
    | none => exact absurd (Call.served_iff.mpr hk) hserved
    | some w' =>
      have hlog : y.log = r.inquire x.state k.context w' :: x.log := Run.log_step_of_asks hk
      exact ⟨_, hlog, rfl, hy.made _ (by rw [hlog]; exact List.mem_cons_self)⟩
  · intro hnetwork
    rcases Call.asks_of_no_request hnetwork with hk | hfails
    · exact .inl (Call.served_iff.mpr hk)
    · exact .inr hfails

/-- A server that gives one answer. -/
def onceReply : Nat → Http.Reply
  | 0 => .answered
    { status := 200
      body := Text.utf8 "\x7b\"flags\":[\x7b\"key\":\"a\",\"value\":true\x7d]\x7d" }
  | _ => .lost

/-- The world with that server and a clock that stands still. -/
def onceWorld : World := ⟨{ reply := onceReply }, { reading := fun _ => ⟨0, 0⟩ }⟩

/-- In that world the second call is served from the cache. -/
theorem served_second_call :
    onceWorld.clock.IsMonotone ∧
      (Call.resolve "a" ∅).Served minuteRemote
        (Run.after minuteRemote onceWorld [.list ∅]).state
        (Run.after minuteRemote onceWorld [.list ∅]).world := by
  have hclock : onceWorld.clock.IsMonotone := fun _ _ _ => (by decide : (⟨0, 0⟩ : Instant) ≤ ⟨0, 0⟩)
  refine ⟨hclock, ?_⟩
  have hnewest : ((Run.after minuteRemote onceWorld [.list ∅]).log.head?.any fun i =>
      i.confirms minuteRemote.lifetime && i.context.same (∅ : Context) &&
        decide ((Run.after minuteRemote onceWorld [.list ∅]).world.now.1 ≤
          i.time.plus minuteRemote.lifetime)) = true := by
    decide +kernel
  obtain ⟨i, hi, hnewest⟩ := (Option.any_eq_true _ _).mp hnewest
  simp only [Bool.and_eq_true, decide_eq_true_eq] at hnewest
  obtain ⟨older, hlog⟩ := List.head?_eq_some_iff.mp hi
  exact (served_iff_confirmed minuteRemote hclock [.list ∅] (.resolve "a" ∅)).1.mpr
    ⟨i, older, hlog, hnewest.1.1, hnewest.1.2, hnewest.2⟩

end Bulk

end RemoteFlags
