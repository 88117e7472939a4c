import RemoteFlags.Proofs.Pause.Run

/-!
# What a refused call leaves behind

A call that is refused sends nothing, but it is refused late: a call for all flags has prepared the
cache by then.  If the cache has a mark for the context of the call, it is left alone.  If it has
none, it is emptied before the pause is looked at, though no answer can come that would take the
place of its entries.  In both cases the pause stays.

## Main definitions

* `Spares r st k` — a refused call leaves the cache alone.
* `AllRefused r x ks` — calls that are refused one after the other.

## Main results

* `Run.state_of_refused` — **the step**: the state after a refused call.
* `refused_spares_or_empties` — **what any number of refused calls leaves behind.**
* `not_unchanged_of_refused` — a run in which fresh entries are lost by a refused call.
-/

namespace RemoteFlags
namespace Pause

open Bulk (Call)
open Remote (State prepared)

/-! ### One refused call -/

/-- A refused call leaves the cache alone: the call is not answered from the cache, or the cache has
a mark for its context. -/
def Spares (r : Remote) (st : State) (k : Call) : Prop :=
  k.isCached r = true → (st.cache.etagFor? k.context).isSome = true

namespace Run

variable {r : Remote} {x : Run} {k : Call} {u : Instant}

/-- The calls that are refused are those that need the server while a pause is on. -/
theorem refused_iff : x.Refused r k u ↔
    ∃ e, k.contact? r x.state x.world = some e ∧ pausedUntil? x.state.pause e.asked = some u := by
  constructor
  · intro h
    cases hk : k.contact? r x.state x.world with
    | none =>
      obtain ⟨hresult, -⟩ := Call.make_of_no_contact hk
      obtain ⟨code, details, he⟩ := Call.eq_evaluation_of_answer (hresult.symm.trans h.1)
      cases he
    | some e => exact ⟨e, rfl, ((Call.follows_make hk).refused u).mp h⟩
  · rintro ⟨e, hk, hpaused⟩
    exact ((Call.follows_make hk).refused u).mpr hpaused

/-- **The step.**  A refused call for one flag leaves the state as it is; any other one leaves the
state with the prepared cache. -/
theorem state_of_refused (h : x.Refused r k u) :
    (Spares r x.state k ∧ (x.step r k).state = x.state) ∨
      (¬ Spares r x.state k ∧
        ∃ t, (x.step r k).state = { x.state with cache := Cache.empty t }) := by
  obtain ⟨e, hk, hpaused⟩ := refused_iff.mp h
  cases hcached : k.isCached r with
  | false =>
    obtain ⟨key, c, -, hmake, hcontact⟩ := Call.exists_resolveSingle hcached x.state x.world
    rw [hcontact] at hk
    obtain rfl := Option.some.inj hk
    have hstate : (x.step r k).state = (r.resolveSingle x.state key c x.world).state := by
      rw [step, hmake]
      rfl
    refine .inl ⟨by simp [Spares, hcached], ?_⟩
    rw [hstate, Remote.resolveSingle_eq, Remote.post_of_paused hpaused]
  | true =>
    rw [Call.contact?_of_isCached hcached] at hk
    obtain ⟨w', hasking, rfl⟩ := Option.map_eq_some_iff.mp hk
    -- The cache is prepared before the pause is looked at.
    have hpost : r.bulkPost x.state k.context w' =
        (.error (.rateLimited u), (prepared x.state k.context w').2.2.now.2) :=
      Remote.post_of_paused hpaused
    have hstate : (x.step r k).state = (prepared x.state k.context w').2.1 := by
      rw [step, Call.make_of_isCached hcached, Call.state_of_asks r hasking, Remote.refetch_eq,
        hpost]
    rw [hstate]
    cases hmark : x.state.cache.etagFor? k.context with
    | some mark =>
      rw [Remote.prepared_of_mark hmark]
      exact .inl ⟨by simp [Spares, hmark], rfl⟩
    | none =>
      rw [Remote.prepared_of_no_mark hmark]
      exact .inr ⟨by simp [Spares, hcached, hmark], _, rfl⟩

end Run

/-! ### Any number of refused calls -/

/-- Calls that are refused one after the other. -/
def AllRefused (r : Remote) : Run → List Call → Prop
  | _, [] => True
  | x, k :: ks => (∃ u, x.Refused r k u) ∧ AllRefused r (x.step r k) ks

variable {r : Remote} {x : Run} {ks : List Call}

theorem network_of_allRefused (h : AllRefused r x ks) :
    (ks.foldl (Run.step r) x).world.network = x.world.network := by
  induction ks generalizing x with
  | nil => rfl
  | cons k ks ih =>
    obtain ⟨⟨u, hu⟩, hks⟩ := h
    exact (ih hks).trans hu.2

theorem state_of_allSpared (h : AllRefused r x ks) (hspares : ∀ k ∈ ks, Spares r x.state k) :
    (ks.foldl (Run.step r) x).state = x.state := by
  induction ks generalizing x with
  | nil => rfl
  | cons k ks ih =>
    obtain ⟨⟨u, hu⟩, hks⟩ := h
    rcases Run.state_of_refused hu with ⟨-, hstate⟩ | ⟨hnot, -⟩
    · have hrest : ∀ k' ∈ ks, Spares r (x.step r k).state k' := by
        intro k' hk'
        rw [hstate]
        exact hspares k' (List.mem_cons_of_mem k hk')
      exact (ih hks hrest).trans hstate
    · exact absurd (hspares k List.mem_cons_self) hnot

/-- A cache that was emptied once stays so. -/
theorem state_of_emptied (h : AllRefused r x ks) {st : State} {t : Instant}
    (hx : x.state = { st with cache := Cache.empty t }) :
    ∃ t', (ks.foldl (Run.step r) x).state = { st with cache := Cache.empty t' } := by
  induction ks generalizing x t with
  | nil => exact ⟨t, hx⟩
  | cons k ks ih =>
    obtain ⟨⟨u, hu⟩, hks⟩ := h
    rcases Run.state_of_refused hu with ⟨-, hstate⟩ | ⟨-, t', hstate⟩
    · exact ih hks (hstate.trans hx)
    · rw [hx] at hstate
      exact ih hks hstate

theorem state_of_not_spared (h : AllRefused r x ks) {k : Call} (hk : k ∈ ks)
    (hnot : ¬ Spares r x.state k) :
    ∃ t, (ks.foldl (Run.step r) x).state = { x.state with cache := Cache.empty t } := by
  induction ks generalizing x with
  | nil => exact absurd hk List.not_mem_nil
  | cons k' ks ih =>
    obtain ⟨⟨u, hu⟩, hks⟩ := h
    rcases Run.state_of_refused hu with ⟨hspares, hstate⟩ | ⟨-, t, hstate⟩
    · -- The first call changed nothing, so the one in question comes later.
      rcases List.mem_cons.mp hk with rfl | hk
      · exact absurd hspares hnot
      obtain ⟨t, ht⟩ := ih hks hk (by rwa [hstate])
      exact ⟨t, by rw [List.foldl_cons, ht, hstate]⟩
    · exact state_of_emptied hks hstate

/-- **What any number of refused calls leaves behind.**  After every run, calls that are refused one
after the other send nothing and keep the pause.  If all of them spare the cache the whole state is
as before, and otherwise the cache is empty and nothing else has changed.  So entries that were
fresh for some context are still fresh for it exactly when all of the calls spare the cache. -/
theorem refused_spares_or_empties (r : Remote) (w : World) (ks : List Call) {ks' : List Call}
    (h : AllRefused r (Run.after r w ks) ks') :
    let x := Run.after r w ks
    let y := ks'.foldl (Run.step r) x
    y.world.network = x.world.network ∧ y.state.pause = x.state.pause ∧
    ((∀ k ∈ ks', Spares r x.state k) → y.state = x.state) ∧
    (¬ (∀ k ∈ ks', Spares r x.state k) →
      ∃ t, y.state = { x.state with cache := Cache.empty t }) ∧
    ∀ c now, x.state.cache.needsRefresh c now = false →
      (y.state.cache.needsRefresh c now = false ↔ ∀ k ∈ ks', Spares r x.state k) := by
  intro x y
  have hspares : (∀ k ∈ ks', Spares r x.state k) → y.state = x.state := state_of_allSpared h
  have hempties : ¬ (∀ k ∈ ks', Spares r x.state k) →
      ∃ t, y.state = { x.state with cache := Cache.empty t } := by
    intro hall
    obtain ⟨k, hk⟩ := Classical.not_forall.mp hall
    obtain ⟨hmem, hnot⟩ := Classical.not_imp.mp hk
    exact state_of_not_spared h hmem hnot
  refine ⟨network_of_allRefused h, ?_, hspares, hempties, ?_⟩
  · by_cases hall : ∀ k ∈ ks', Spares r x.state k
    · rw [hspares hall]
    · obtain ⟨t, ht⟩ := hempties hall
      rw [ht]
  · intro c now hfresh
    by_cases hall : ∀ k ∈ ks', Spares r x.state k
    · rw [hspares hall]
      exact ⟨fun _ => hall, fun _ => hfresh⟩
    · obtain ⟨t, ht⟩ := hempties hall
      rw [ht]
      exact ⟨fun hstill => (nomatch hstill), fun h => absurd h hall⟩

/-! ### Entries that are lost -/

/-- A server that answers once, and then wants to be left alone for two minutes. -/
def restingReply : Nat → Http.Reply
  | 0 => .answered
    { status := 200
      body := Text.utf8 "\x7b\"flags\":[\x7b\"key\":\"a\",\"value\":true\x7d]\x7d" }
  | 1 => .answered { status := 429, headers := [("retry-after", "120")] }
  | _ => .lost

/-- The world with that server and a clock that stands still. -/
def restingWorld : World := ⟨{ reply := restingReply }, { reading := fun _ => ⟨0, 0⟩ }⟩

/-- A provider that asks for one flag at a time, and keeps the answer to a request for all. -/
def oneByOneRemote : Remote := { Bulk.minuteRemote with mode := .single }

/-- It asks for all flags, and then for one. -/
def restingRun : Run := Run.after oneByOneRemote restingWorld [.list ∅, .resolve "b" ∅]

/-- A call for all flags in another context. -/
def strangerCall : Call := .list ((∅ : Context).withTargetingKey "stranger")

theorem refused_strangerCall : restingRun.Refused oneByOneRemote strangerCall ⟨120, 0⟩ := by
  have hcontact : ((strangerCall.contact? oneByOneRemote restingRun.state restingRun.world).any
      fun e => pausedUntil? restingRun.state.pause e.asked == some ⟨120, 0⟩) = true := by
    decide +kernel
  obtain ⟨e, hk, hpaused⟩ := (Option.any_eq_true _ _).mp hcontact
  exact Run.refused_iff.mpr ⟨e, hk, by simpa using hpaused⟩

/-- The refused call empties the cache, as it has no mark. -/
theorem emptied_by_strangerCall :
    AllRefused oneByOneRemote restingRun [strangerCall] ∧
      ∃ t, ([strangerCall].foldl (Run.step oneByOneRemote) restingRun).state =
        { restingRun.state with cache := Cache.empty t } := by
  have hrefused : AllRefused oneByOneRemote restingRun [strangerCall] :=
    ⟨⟨_, refused_strangerCall⟩, trivial⟩
  have hnot : ¬ ∀ k ∈ [strangerCall], Spares oneByOneRemote restingRun.state k := by
    intro hall
    have hmark : (restingRun.state.cache.etagFor? strangerCall.context).isSome = false := by
      decide +kernel
    rw [hall strangerCall List.mem_cons_self rfl] at hmark
    cases hmark
  exact ⟨hrefused, (refused_spares_or_empties oneByOneRemote restingWorld _ hrefused).2.2.2.1 hnot⟩

/-- **Fresh entries that are lost.**  A refused call does change the state: before it the entries
are fresh for the empty context, and afterwards they are gone. -/
theorem not_unchanged_of_refused :
    ¬ ∀ (r : Remote) (w : World) (ks : List Call) (k : Call) (u : Instant), w.clock.IsMonotone →
      (Run.after r w ks).Refused r k u →
      ((Run.after r w ks).step r k).state = (Run.after r w ks).state := by
  intro h
  have hclock : restingWorld.clock.IsMonotone :=
    fun _ _ _ => (by decide : (⟨0, 0⟩ : Instant) ≤ ⟨0, 0⟩)
  have hsame : (restingRun.step oneByOneRemote strangerCall).state = restingRun.state :=
    h oneByOneRemote restingWorld _ strangerCall ⟨120, 0⟩ hclock refused_strangerCall
  have hfresh : restingRun.state.cache.needsRefresh ∅ ⟨0, 0⟩ = false := by decide +kernel
  have hstale : (restingRun.step oneByOneRemote strangerCall).state.cache.needsRefresh ∅ ⟨0, 0⟩ =
      true := by
    decide +kernel
  rw [hsame, hfresh] at hstale
  cases hstale

end Pause
end RemoteFlags
