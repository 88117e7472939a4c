import RemoteFlags.Proofs.Bulk.Call

/-!
# Runs of a caching provider

A run is a list of calls, one after the other, from a new provider in some world.  Beside the
provider and the world it keeps the log of the inquiries that the calls made.

## Main definitions

* `Run`, `Run.after` — runs.
* `Inquiry.MadeBy` — an inquiry that was really sent in some later world.
* `Run.Inv` — the invariant of runs.

## Main results

* `Run.inv_after` — **the invariant**: after every run the cache reflects the ledger of the log.
* `Run.fails_or_answers` — where the result of a call comes from.
-/

namespace RemoteFlags
namespace Bulk

open Remote (State Outcome)

/-! ### Runs -/

/-- A provider that uses answers for a minute. -/
def minuteRemote : Remote where
  base := { scheme := "http", host := some "flags.test", segments := [""] }
  headers := ∅
  mode := .bulk
  lifetime := 60
  maxRetries := 0
  retryBackoff := 1000
  timeout := 10000

/-- Where a run has come to. -/
structure Run where
  /-- The provider. -/
  state : State
  /-- The world. -/
  world : World
  /-- The inquiries that were made, the newest one first. -/
  log : List Inquiry

/-- An inquiry that a provider sent in a world, or later. -/
def Inquiry.MadeBy (r : Remote) (w : World) (i : Inquiry) : Prop :=
  ∃ pause w', w.Later w' ∧
    i.response = (r.post pause (r.endpoint none) i.context i.mark w').1.toOption ∧
    i.time = (r.post pause (r.endpoint none) i.context i.mark w').2.now.1

namespace Run

/-- A new provider, and nothing asked yet. -/
def start (w : World) : Run := ⟨State.initial w.now.1, w.now.2, []⟩

/-- One more call. -/
def step (r : Remote) (x : Run) (k : Call) : Run :=
  let o := k.perform r x.state x.world
  ⟨o.state, o.world, (k.inquiry? r x.state x.world).toList ++ x.log⟩

/-- A run of a new provider. -/
def after (r : Remote) (w : World) (ks : List Call) : Run := ks.foldl (step r) (start w)

theorem after_concat (r : Remote) (w : World) (ks : List Call) (k : Call) :
    after r w (ks ++ [k]) = (after r w ks).step r k := by
  simp [after]

/-- What holds after every run that begins in a world. -/
structure Inv (r : Remote) (w : World) (x : Run) : Prop where
  /-- The world went on. -/
  later : w.Later x.world
  /-- The log carries the marks of its ledger. -/
  marked : Marked r.lifetime x.log
  /-- The cache reflects the ledger of the log. -/
  reflects : Reflects r.lifetime x.state.cache (ledger r.lifetime x.log)
  /-- The inquiries of the log were made. -/
  made : ∀ i ∈ x.log, i.MadeBy r w

theorem inv_start (r : Remote) (w : World) : Inv r w (start w) where
  later := w.later_now
  marked := trivial
  reflects := rfl
  made := by simp [start]

variable {r : Remote} {w : World} {x : Run} {k : Call}

theorem log_step_of_asks {w' : World} (h : k.asking? x.state x.world = some w') :
    (x.step r k).log = r.inquire x.state k.context w' :: x.log := by
  simp [step, Call.inquiry?, h]

theorem log_step_of_answers (h : k.asking? x.state x.world = none) : (x.step r k).log = x.log := by
  simp [step, Call.inquiry?, h]

theorem madeBy_inquire (r : Remote) (st : State) (c : Context) {w w' : World} (h : w.Later w') :
    (r.inquire st c w').MadeBy r w := by
  have hmark : (r.inquire st c w').mark = (Remote.prepared st c w').1 :=
    (Remote.fst_prepared st c w').symm
  refine ⟨st.pause, (Remote.prepared st c w').2.2, h.trans (Remote.later_prepared st c w'), ?_, ?_⟩
  · rw [hmark]
    rfl
  · rw [hmark]
    rfl

/-- **The step.**  One more call keeps the invariant. -/
theorem inv_step (h : Inv r w x) (k : Call) :
    Inv r w (x.step r k) := by
  have hlater : w.Later (x.step r k).world := h.later.trans (k.later_perform r x.state x.world)
  cases hk : k.asking? x.state x.world with
  | none =>
    have hlog : (x.step r k).log = x.log := log_step_of_answers hk
    have hstate : (x.step r k).state = x.state := (Call.perform_of_answers r hk).2.2.1
    exact ⟨hlater, hlog ▸ h.marked, hlog ▸ hstate ▸ h.reflects, hlog ▸ h.made⟩
  | some w' =>
    obtain ⟨hasked, -⟩ := Call.stale_of_asking? hk
    have hlog := log_step_of_asks (r := r) hk
    have hstate : (x.step r k).state = (r.refetch x.state k.context w').state :=
      Call.state_of_asks r hk
    obtain ⟨hmark, hreflects⟩ := Remote.reflects_refetch r h.reflects k.context w'
    refine ⟨hlater, ?_, ?_, ?_⟩
    · rw [hlog]
      exact ⟨hmark, h.marked⟩
    · rw [hlog, hstate]
      exact hreflects
    · intro i hi
      rw [hlog] at hi
      rcases List.mem_cons.mp hi with rfl | hi
      · exact madeBy_inquire r x.state k.context (h.later.trans hasked)
      · exact h.made i hi

theorem inv_foldl (h : Inv r w x) (ks : List Call) :
    Inv r w (ks.foldl (step r) x) := by
  induction ks generalizing x with
  | nil => exact h
  | cons k ks ih => exact ih (inv_step h k)

/-- **The invariant.**  It holds after every run. -/
theorem inv_after (r : Remote) (w : World) (ks : List Call) : Inv r w (after r w ks) :=
  inv_foldl (inv_start r w) ks

theorem Inv.cache_eq (h : Inv r w x) {l : Ledger} (hl : ledger r.lifetime x.log = some l) :
    x.state.cache = l.cache r.lifetime := by
  have hreflects := h.reflects
  rw [hl] at hreflects
  exact hreflects

/-- A cache that belongs to a context is the one of a ledger. -/
theorem Inv.exists_ledger (h : Inv r w x) {d : Context} (hd : x.state.cache.context = some d) :
    ∃ l, ledger r.lifetime x.log = some l ∧ x.state.cache = l.cache r.lifetime ∧
      l.stored.context = d := by
  cases hl : ledger r.lifetime x.log with
  | none =>
    have hreflects := h.reflects
    rw [hl] at hreflects
    have hnone : x.state.cache.context = none := hreflects
    rw [hnone] at hd
    cases hd
  | some l =>
    have hcache := h.cache_eq hl
    rw [hcache] at hd
    exact ⟨l, rfl, hcache, Option.some.inj hd⟩

/-- A call asks the server, which confirms nothing, and fails because that fails. -/
def Fails (r : Remote) (x : Run) (k : Call) : Prop :=
  ∃ w' e, k.asking? x.state x.world = some w' ∧
    (x.step r k).log = r.inquire x.state k.context w' :: x.log ∧
    (r.inquire x.state k.context w').confirms r.lifetime = false ∧
    (r.refetch x.state k.context w').result = .error e ∧
    (k.perform r x.state x.world).result = .error e

/-- Unless asking the server fails, the cache gives the answer, and belongs to the context of the
call. -/
theorem fails_or_answers (h : Inv r w x) (k : Call) :
    x.Fails r k ∨
    ((k.perform r x.state x.world).result = k.answer (x.step r k).state.cache ∧
      (x.step r k).state.cache.isFor k.context = true) := by
  cases hk : k.asking? x.state x.world with
  | none =>
    obtain ⟨⟨n, -, hfresh⟩, hresult, hstate, -⟩ := Call.perform_of_answers r hk
    have hcache : (x.step r k).state = x.state := hstate
    rw [hcache]
    exact .inr ⟨hresult, (Cache.needsRefresh_eq_false_iff.mp hfresh).1⟩
  | some w' =>
    have hlog := log_step_of_asks (r := r) hk
    have hconfirms := (Remote.tookIn_refetch r x.state k.context w').isOk
    have hstate : (x.step r k).state = (r.refetch x.state k.context w').state :=
      Call.state_of_asks r hk
    have hperform := Call.perform_of_asks r hk
    rw [Outcome.answering] at hperform
    cases hresult : (r.refetch x.state k.context w').result with
    | error e =>
      rw [hresult] at hconfirms hperform
      exact .inl ⟨w', e, hk, hlog, hconfirms.symm, hresult, by rw [hperform]⟩
    | ok _ =>
      rw [hresult] at hconfirms hperform
      -- The inquiry confirms the entries, so it stands in the ledger, for the context of the call.
      have hinv := inv_step h k
      have hmarked := hinv.marked
      rw [hlog] at hmarked
      obtain ⟨l, hl, -, hsame⟩ := ledger_of_confirms hmarked hconfirms.symm
      rw [← hlog] at hl
      have hcache := hinv.cache_eq hl
      refine .inr ⟨by rw [hperform, hstate], ?_⟩
      rw [hcache]
      exact Cache.isFor_iff.mpr ⟨_, rfl, hsame⟩

end Run

end Bulk

end RemoteFlags
