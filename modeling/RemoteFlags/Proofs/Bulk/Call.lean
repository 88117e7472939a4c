import RemoteFlags.Proofs.Bulk.Refetch

/-!
# Calls of a caching provider

A call looks at the clock and at the cache.  If the cache is fresh for its context, the cache gives
the answer; otherwise the server is asked first.

## Main definitions

* `Call`, `Call.perform` — the calls that are answered from the cache.
* `Call.asking?` — the world in which a call starts to ask the server, if it does.

## Main results

* `Call.perform_of_asks`, `Call.perform_of_answers` — what a call does, in both cases.
* `Call.later_perform` — calls move the world forward.
-/

namespace RemoteFlags

namespace Remote

/-- The outcome with another result. -/
def Outcome.map {α β : Type} (f : α → β) (o : Outcome α) : Outcome β :=
  ⟨o.result.map f, o.state, o.world⟩

/-- The outcome of an answer from the cache, once the server was asked. -/
def Outcome.answering {α : Type} (answer : Cache → Except FlagError α) (o : Outcome Unit) :
    Outcome α :=
  match o.result with
  | .error e => ⟨.error e, o.state, o.world⟩
  | .ok _ => ⟨answer o.state.cache, o.state, o.world⟩

@[simp] theorem Outcome.state_answering {α : Type} (answer : Cache → Except FlagError α)
    (o : Outcome Unit) : (o.answering answer).state = o.state := by
  unfold answering
  split <;> rfl

@[simp] theorem Outcome.world_answering {α : Type} (answer : Cache → Except FlagError α)
    (o : Outcome Unit) : (o.answering answer).world = o.world := by
  unfold answering
  split <;> rfl

theorem Outcome.map_answering {α β : Type} (f : α → β) (answer : Cache → Except FlagError α)
    (o : Outcome Unit) :
    (o.answering answer).map f = o.answering fun cache => (answer cache).map f := by
  unfold answering map
  cases o.result <;> rfl

section

variable {α : Type} (r : Remote) {st : State} {c : Context} {w : World}

theorem fromCache_of_fresh (answer : Cache → Except FlagError α)
    (h : st.cache.needsRefresh c w.now.1 = false) :
    r.fromCache st c w answer = ⟨answer st.cache, st, w.now.2⟩ := by
  obtain ⟨now, w', hnow⟩ : ∃ now w', w.now = (now, w') := ⟨_, _, rfl⟩
  rw [hnow] at h
  simp [fromCache, hnow, h]

theorem fromCache_of_stale (answer : Cache → Except FlagError α)
    (h : st.cache.needsRefresh c w.now.1 = true) :
    r.fromCache st c w answer = (r.refetch st c w.now.2).answering answer := by
  obtain ⟨now, w', hnow⟩ : ∃ now w', w.now = (now, w') := ⟨_, _, rfl⟩
  rw [hnow] at h
  simp only [fromCache, hnow, h, if_true]
  cases r.refetch st c w' with
  | mk result st' w'' => cases result <;> rfl

theorem resolveBulk_of_fresh (key : String) (h : st.cache.needsRefresh c w.now.1 = false) :
    r.resolveBulk st key c w = ⟨entryAnswer key (st.cache.get? key), st, w.now.2⟩ := by
  obtain ⟨now, w', hnow⟩ : ∃ now w', w.now = (now, w') := ⟨_, _, rfl⟩
  rw [hnow] at h
  simp [resolveBulk, hnow, h]

theorem resolveBulk_of_stale (key : String) (h : st.cache.needsRefresh c w.now.1 = true) :
    r.resolveBulk st key c w =
      r.fromCache st c w.now.2 fun cache => entryAnswer key (cache.get? key) := by
  obtain ⟨now, w', hnow⟩ : ∃ now w', w.now = (now, w') := ⟨_, _, rfl⟩
  rw [hnow] at h
  simp [resolveBulk, hnow, h]

end

end Remote

namespace Bulk

open Remote (State Outcome)

/-! ### Calls -/

/-- A call that is answered from the cache. -/
inductive Call where
  /-- The value of one flag. -/
  | resolve (key : String) (context : Context)
  /-- All flags that have a value. -/
  | list (context : Context)

/-- What a call tells. -/
inductive Told where
  /-- The value of a flag. -/
  | value (r : Resolution)
  /-- The flags with their values. -/
  | values (rs : List (String × Resolution))

namespace Call

/-- The context that a call asks for. -/
def context : Call → Context
  | .resolve _ c => c
  | .list c => c

/-- What a cache answers to a call. -/
def answer : Call → Cache → Except FlagError Told
  | .resolve key _, cache => (Remote.entryAnswer key (cache.get? key)).map .value
  | .list _, cache => .ok (.values (Remote.valuesOf cache))

/-- Does a call. -/
def perform (r : Remote) (st : State) (w : World) : Call → Outcome Told
  | .resolve key c => (r.resolveBulk st key c w).map .value
  | .list c => (r.list st c w).map .values

/-- A call for one flag is what a provider in bulk mode does for it. -/
theorem perform_resolve {r : Remote} (h : r.mode = .bulk) (st : State) (w : World) (key : String)
    (c : Context) : (Call.resolve key c).perform r st w = (r.resolve st key c w).map .value := by
  rw [perform, Remote.resolve, h]

/-- The world in which a call starts to ask the server, if it does.  A call for one flag looks at
the clock twice before. -/
def asking? (st : State) (w : World) : Call → Option World
  | .resolve _ c =>
    if st.cache.needsRefresh c w.now.1 && st.cache.needsRefresh c w.now.2.now.1 then
      some w.now.2.now.2
    else none
  | .list c => if st.cache.needsRefresh c w.now.1 then some w.now.2 else none

/-- The inquiry that a call makes, if it does. -/
def inquiry? (r : Remote) (st : State) (w : World) (k : Call) : Option Inquiry :=
  (k.asking? st w).map (r.inquire st k.context)

variable {r : Remote} {st : State} {w w' : World} {k : Call}

/-- The cache fails only in one way: a flag has no value. -/
theorem eq_evaluation_of_answer {c : Cache} {e : FlagError} (h : k.answer c = .error e) :
    ∃ code details, e = .evaluation code details := by
  cases k with
  | list context => simp [answer] at h
  | resolve key context =>
    cases hfound : c.get? key with
    | none =>
      simp only [answer, hfound, Remote.entryAnswer, Remote.notFound, Except.map] at h
      exact ⟨_, _, (Except.error.inj h).symm⟩
    | some entry =>
      cases entry with
      | success s => simp [answer, hfound, Remote.entryAnswer, Except.map] at h
      | failure f =>
        simp only [answer, hfound, Remote.entryAnswer, Except.map] at h
        exact ⟨_, _, (Except.error.inj h).symm⟩

theorem asking?_resolve_eq_some {key : String} {c : Context} :
    (Call.resolve key c).asking? st w = some w' ↔
      st.cache.needsRefresh c w.now.1 = true ∧ st.cache.needsRefresh c w.now.2.now.1 = true ∧
        w.now.2.now.2 = w' := by
  simp [asking?, and_assoc]

theorem asking?_list_eq_some {c : Context} :
    (Call.list c).asking? st w = some w' ↔
      st.cache.needsRefresh c w.now.1 = true ∧ w.now.2 = w' := by
  simp [asking?]

theorem stale_of_asking? (h : k.asking? st w = some w') :
    w.Later w' ∧ ∃ n, w.clock.taken ≤ n ∧ n < w'.clock.taken ∧
      st.cache.needsRefresh k.context (w.clock.reading n) = true := by
  cases k with
  | resolve key c =>
    obtain ⟨hfirst, -, rfl⟩ := asking?_resolve_eq_some.mp h
    refine ⟨w.later_now.trans (World.later_now _), w.clock.taken, Nat.le_refl _, ?_, hfirst⟩
    simp only [World.taken_now]
    omega
  | list c =>
    obtain ⟨hstale, rfl⟩ := asking?_list_eq_some.mp h
    refine ⟨w.later_now, w.clock.taken, Nat.le_refl _, ?_, hstale⟩
    simp only [World.taken_now]
    omega

theorem network_of_asking? (h : k.asking? st w = some w') : w'.network = w.network := by
  cases k with
  | resolve key c =>
    obtain ⟨-, -, rfl⟩ := asking?_resolve_eq_some.mp h
    rfl
  | list c =>
    obtain ⟨-, rfl⟩ := asking?_list_eq_some.mp h
    rfl

/-- A call that asks the server ends with the failure of that, or answers from the cache after it. -/
theorem perform_of_asks (r : Remote) (h : k.asking? st w = some w') :
    k.perform r st w = (r.refetch st k.context w').answering k.answer := by
  cases k with
  | resolve key c =>
    -- Both looks find the cache stale, and the second one leads to the refetch.
    obtain ⟨hfirst, hsecond, rfl⟩ := asking?_resolve_eq_some.mp h
    rw [perform, Remote.resolveBulk_of_stale r key hfirst, Remote.fromCache_of_stale r _ hsecond,
      Outcome.map_answering]
    rfl
  | list c =>
    obtain ⟨hstale, rfl⟩ := asking?_list_eq_some.mp h
    rw [perform, Remote.list, Remote.fromCache_of_stale r _ hstale, Outcome.map_answering]
    rfl

/-- A call that does not ask the server found a reading at which the cache is fresh for it, answers
from the cache, and does nothing else but look at the clock. -/
theorem perform_of_answers (r : Remote) (h : k.asking? st w = none) :
    (∃ n, w.clock.taken ≤ n ∧ st.cache.needsRefresh k.context (w.clock.reading n) = false) ∧
      (k.perform r st w).result = k.answer st.cache ∧ (k.perform r st w).state = st ∧
      w.Later (k.perform r st w).world ∧ (k.perform r st w).world.network = w.network := by
  cases k with
  | resolve key c =>
    cases hfirst : st.cache.needsRefresh c w.now.1 with
    | false =>
      rw [perform, Remote.resolveBulk_of_fresh r key hfirst]
      exact ⟨⟨w.clock.taken, Nat.le_refl _, hfirst⟩, rfl, rfl, w.later_now, rfl⟩
    | true =>
      -- The clock may have gone back between the two looks.
      have hsecond : st.cache.needsRefresh c w.now.2.now.1 = false := by
        simpa [asking?, hfirst] using h
      rw [perform, Remote.resolveBulk_of_stale r key hfirst,
        Remote.fromCache_of_fresh r _ hsecond]
      exact ⟨⟨w.clock.taken + 1, Nat.le_succ _, hsecond⟩, rfl, rfl,
        w.later_now.trans (World.later_now _), rfl⟩
  | list c =>
    have hfresh : st.cache.needsRefresh c w.now.1 = false := by simpa [asking?] using h
    rw [perform, Remote.list, Remote.fromCache_of_fresh r _ hfresh]
    exact ⟨⟨w.clock.taken, Nat.le_refl _, hfresh⟩, rfl, rfl, w.later_now, rfl⟩

theorem state_of_asks (r : Remote) (h : k.asking? st w = some w') :
    (k.perform r st w).state = (r.refetch st k.context w').state := by
  rw [perform_of_asks r h, Outcome.state_answering]

theorem world_of_asks (r : Remote) (h : k.asking? st w = some w') :
    (k.perform r st w).world = (r.refetch st k.context w').world := by
  rw [perform_of_asks r h, Outcome.world_answering]

theorem later_perform (r : Remote) (st : State) (w : World) (k : Call) :
    w.Later (k.perform r st w).world := by
  cases h : k.asking? st w with
  | none =>
    obtain ⟨-, -, -, hlater, -⟩ := perform_of_answers r h
    exact hlater
  | some w' =>
    obtain ⟨hasked, -⟩ := stale_of_asking? h
    rw [world_of_asks r h]
    exact hasked.trans (Remote.later_refetch r st k.context w')

end Call

end Bulk

end RemoteFlags
