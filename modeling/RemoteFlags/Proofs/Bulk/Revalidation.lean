import RemoteFlags.Proofs.Bulk.Run
import RemoteFlags.Proofs.Fields

/-!
# Asking whether an answer still holds

A provider that has stored an answer with a mark asks for news by sending that mark.  It keeps doing
so as long as it asks for the same context; as soon as it asks without a mark, the old one is
forgotten, whatever comes of that.  If the server says that nothing changed, only the deadline of
the entries moves; if it says so without having been sent a mark, the call fails.

## Main definitions

* `Lends lifetime log c mark` — a log lends a mark to the next requests for a context.

## Main results

* `markFor_eq_some_iff` — the mark that the ledger lends, read off the log.
* `Remote.hears_refetch` — the requests of a refetch carry the mark of the cache.
* `carries_iff_lends` — **which mark is sent, and what a server does by saying that nothing
  changed.**
-/

namespace RemoteFlags

/-! ### Marks that a log lends -/

namespace Bulk

/-- A log lends a mark to requests for a context.  It is the mark of the last answer that was
stored; the context of that answer is equal; and every inquiry since then carried a mark. -/
def Lends (lifetime : Int) (log : List Inquiry) (c : Context) (mark : String) : Prop :=
  ∃ later s older, log = later ++ s :: older ∧ s.stores lifetime = true ∧
    s.context.same c = true ∧ s.tag? = some mark ∧
    ∀ i ∈ later, i.stores lifetime = false ∧ i.mark.isSome = true

variable {lifetime : Int} {log later older : List Inquiry} {s i : Inquiry} {c : Context}
  {mark : String}

/-- Inquiries with a mark that store nothing leave the stored one in its place. -/
theorem ledger_append (hstores : s.stores lifetime = true)
    (h : ∀ i ∈ later, i.stores lifetime = false ∧ i.mark.isSome = true) :
    ∃ l, ledger lifetime (later ++ s :: older) = some l ∧ l.stored = s := by
  induction later with
  | nil => exact ⟨⟨s, s, s⟩, record_of_stores _ hstores, rfl⟩
  | cons i later ih =>
    obtain ⟨l, hl, hstored⟩ := ih fun j hj => h j (List.mem_cons_of_mem i hj)
    obtain ⟨hi, hmark⟩ := h i List.mem_cons_self
    have hopen : i.mark.isNone = false := by
      rw [← Option.not_isSome, hmark]
      rfl
    have hrecord : ledger lifetime (i :: later ++ s :: older) =
        some (if i.keeps lifetime then { l with confirmed := i }
          else if i.breaksOff lifetime then { l with taken := i }
          else l) := by
      rw [List.cons_append, ledger, hl, record, if_neg (by simp [hi]), if_neg (by simp [hopen])]
      rfl
    refine ⟨_, hrecord, ?_⟩
    split
    · exact hstored
    split <;> exact hstored

/-- The mark that the ledger of a log lends is the one that the log lends. -/
theorem markFor_eq_some_iff (hlog : Marked lifetime log) :
    markFor (ledger lifetime log) c = some mark ↔ Lends lifetime log c mark := by
  constructor
  · intro h
    obtain ⟨l, hl, hsame, htag⟩ := markFor_eq_some h
    obtain ⟨later, older, hsplit, hstores, hagain, -⟩ := exists_split_of_ledger hlog hl
    refine ⟨later, l.stored, older, hsplit, hstores, hsame, htag, ?_⟩
    intro i hi
    exact ⟨(hagain i hi).stores, (hagain i hi).marked⟩
  · rintro ⟨later, s, older, rfl, hstores, hsame, htag, hlater⟩
    obtain ⟨l, hl, rfl⟩ : ∃ l, ledger lifetime (later ++ s :: older) = some l ∧ l.stored = s :=
      ledger_append hstores hlater
    rw [hl]
    simp [markFor, hsame, htag]

/-- An inquiry for another context, whatever came of it, makes a log forget the mark, until the next
answer is stored. -/
theorem not_lends_of_other (hlog : Marked lifetime log) (hsplit : log = later ++ i :: older)
    (hother : i.context.same c = false) (hi : i.stores lifetime = false)
    (hlater : ∀ j ∈ later, j.stores lifetime = false) : ¬ Lends lifetime log c mark := by
  intro h
  obtain ⟨l, hl, hsame, -⟩ := markFor_eq_some ((markFor_eq_some_iff hlog).mpr h)
  obtain ⟨later', older', hsplit', hstores, hagain, -⟩ := exists_split_of_ledger hlog hl
  -- The stored inquiry is older than the one for the other context, so that one asked again for it.
  have hmem : i ∈ later' := by
    rw [hsplit] at hsplit'
    rcases List.append_eq_append_iff.mp hsplit' with
      ⟨between, hlater', hrest⟩ | ⟨between, h', hrest⟩
    · cases between with
      | nil =>
        obtain ⟨rfl, -⟩ := List.cons.inj hrest
        simp [hi] at hstores
      | cons j between =>
        obtain ⟨rfl, -⟩ := List.cons.inj hrest
        simp [hlater']
    · cases between with
      | nil =>
        obtain ⟨rfl, -⟩ := List.cons.inj hrest
        simp [hi] at hstores
      | cons j between =>
        obtain ⟨rfl, -⟩ := List.cons.inj hrest
        have := hlater l.stored (by simp [h'])
        simp [this] at hstores
  have hsame' : i.context.same c = true :=
    Context.same_trans (Context.same_symm (hagain i hmem).context) hsame
  simp [hother] at hsame'

end Bulk

/-! ### Requests and answers of a refetch -/

namespace Remote

open Bulk
open Http.Network (Hears)

variable {r : Remote} {st : State} {c : Context} {w : World}

/-- All requests of a refetch carry the mark of the cache. -/
theorem hears_refetch (r : Remote) (st : State) (c : Context) (w : World) :
    Hears (r.Carries (st.cache.etagFor? c)) w.network (r.refetch st c w).world.network := by
  have hpost : Hears (r.Carries (st.cache.etagFor? c)) w.network (r.bulkPost st c w).2.network := by
    rw [← network_prepared st c w, ← fst_prepared st c w]
    exact hears_post r _ _ _ _ _
  rw [refetch_eq]
  cases (r.bulkPost st c w).1 with
  | error e => exact hpost
  | ok res =>
    dsimp only
    rw [network_takeBulk]
    exact hpost

/-- When nothing changed since the answer whose mark was sent, at most the deadline moves. -/
theorem refetch_of_unchanged {mark : String} {res : Http.Response}
    (hmark : st.cache.etagFor? c = some mark) (hres : (r.inquire st c w).response = some res)
    (hstatus : res.status = 304) :
    ∃ deadline, (r.refetch st c w).state.cache = { st.cache with deadline := deadline } := by
  have hentries : (r.inquire st c w).entries? = none := by
    simp [Inquiry.entries?, hres, hstatus, Http.isSuccess]
  have hcache := (tookIn_refetch r st c w).cache
  rw [prepared_of_mark hmark] at hcache
  simp only [absorb, Inquiry.stores, Inquiry.breaksOff, hentries] at hcache
  cases hkeeps : (r.inquire st c w).keeps r.lifetime with
  | true => exact ⟨(r.inquire st c w).time.plus r.lifetime, by simpa [hkeeps] using hcache⟩
  | false => exact ⟨st.cache.deadline, by simpa [hkeeps] using hcache⟩

/-- When no mark was sent there is nothing that could be unchanged. -/
theorem refetch_of_unasked {res : Http.Response} (hmark : st.cache.etagFor? c = none)
    (hres : (r.inquire st c w).response = some res) (hstatus : res.status = 304) :
    (r.refetch st c w).result = .error (.cache Cache.Fault.nothingCached.message) ∧
      (r.refetch st c w).state.cache = Cache.empty w.now.1 := by
  have hpost : (r.bulkPost st c w).1 = .ok res := by
    cases h : (r.bulkPost st c w).1 with
    | error e => simp [inquire, h, Except.toOption] at hres
    | ok res' => simpa [inquire, h, Except.toOption] using hres
  rw [refetch_eq, hpost, prepared_of_no_mark hmark]
  dsimp only
  rw [takeBulk, if_pos hstatus]
  exact ⟨rfl, rfl⟩

end Remote

/-! ### The protocol -/

namespace Bulk

namespace Run

open Http.Network (Hears)

variable {r : Remote} {w : World} {x : Run}

theorem Inv.etagFor?_eq_some_iff (hx : Inv r w x) (c : Context) (mark : String) :
    x.state.cache.etagFor? c = some mark ↔ Lends r.lifetime x.log c mark := by
  rw [hx.reflects.etagFor? c, markFor_eq_some_iff hx.marked]

/-- All requests of a call carry the mark of the cache. -/
theorem hears_step (r : Remote) (x : Run) (k : Call) :
    Hears (r.Carries (x.state.cache.etagFor? k.context)) x.world.network
      (x.step r k).world.network := by
  cases hk : k.asking? x.state x.world with
  | none =>
    have hnetwork : (x.step r k).world.network = x.world.network :=
      (Call.perform_of_answers r hk).2.2.2.2
    rw [hnetwork]
    exact .refl _
  | some w' =>
    have hworld : (x.step r k).world = (r.refetch x.state k.context w').world :=
      Call.world_of_asks r hk
    have hrefetch := r.hears_refetch x.state k.context w'
    rwa [← hworld, Call.network_of_asking? hk] at hrefetch

/-- An inquiry that a call adds to the log is the one of its refetch. -/
theorem exists_asking_of_log_step {k : Call} {i : Inquiry}
    (h : (x.step r k).log = i :: x.log) :
    ∃ w', k.asking? x.state x.world = some w' ∧ i = r.inquire x.state k.context w' := by
  cases hk : k.asking? x.state x.world with
  | none =>
    have hlength := congrArg List.length ((log_step_of_answers hk).symm.trans h)
    simp at hlength
  | some w' =>
    obtain ⟨rfl, -⟩ := List.cons.inj ((log_step_of_asks hk).symm.trans h)
    exact ⟨w', rfl, rfl⟩

end Run

/-- **Which mark is sent, and what a server does by saying that nothing changed.**  After every run,
the requests of a call that arrive carry a mark of the provider's own exactly when the log lends it,
and carry none if it lends none.  An inquiry for another context takes the mark away, until the next
answer is stored.  A response that says that nothing changed moves at most the deadline of the cache
if a mark was sent, and otherwise makes the call fail and leaves the cache empty. -/
theorem carries_iff_lends (r : Remote) (w : World) (ks : List Call) (k : Call) :
    let x := Run.after r w ks
    let y := x.step r k
    (∃ qs, y.world.network.arrived = x.world.network.arrived ++ qs ∧ ∀ q ∈ qs,
      (∀ mark, r.Carries (some mark) q ↔ Lends r.lifetime x.log k.context mark) ∧
      ((∀ mark, ¬ Lends r.lifetime x.log k.context mark) → r.Carries none q)) ∧
    (∀ later i older, x.log = later ++ i :: older → i.context.same k.context = false →
      i.stores r.lifetime = false → (∀ j ∈ later, j.stores r.lifetime = false) →
      ∀ mark, ¬ Lends r.lifetime x.log k.context mark) ∧
    ∀ i, y.log = i :: x.log →
      i.context = k.context ∧ i.MadeBy r w ∧
      (∀ mark, i.mark = some mark ↔ Lends r.lifetime x.log k.context mark) ∧
      ∀ res, i.response = some res → res.status = 304 →
        (i.mark.isSome = true →
          ∃ deadline, y.state.cache = { x.state.cache with deadline := deadline }) ∧
        (i.mark = none →
          (k.perform r x.state x.world).result =
            .error (.cache Cache.Fault.nothingCached.message) ∧
          ∃ t, y.state.cache = Cache.empty t) := by
  intro x y
  have hx : Run.Inv r w x := Run.inv_after r w ks
  have hy : Run.Inv r w y := Run.inv_step hx k
  have hlends := hx.etagFor?_eq_some_iff k.context
  refine ⟨?_, ?_, ?_⟩
  · obtain ⟨qs, harrived, hqs⟩ := Run.hears_step r x k
    refine ⟨qs, harrived, ?_⟩
    intro q hq
    have hcarries := hqs q hq
    constructor
    · intro mark
      rw [← hlends]
      constructor
      · intro h
        exact hcarries.unique h
      · intro h
        rwa [h] at hcarries
    · intro hnone
      cases hmark : x.state.cache.etagFor? k.context with
      | none => rwa [hmark] at hcarries
      | some mark => exact absurd ((hlends mark).mp hmark) (hnone mark)
  · intro later i older hsplit hother hi hlater mark
    exact not_lends_of_other hx.marked hsplit hother hi hlater
  · intro i hlog
    have hmade : i.MadeBy r w := by
      apply hy.made
      rw [hlog]
      exact List.mem_cons_self
    obtain ⟨w', hk, rfl⟩ := Run.exists_asking_of_log_step hlog
    refine ⟨rfl, hmade, hlends, ?_⟩
    intro res hres hstatus
    have hstate : y.state = (r.refetch x.state k.context w').state := Call.state_of_asks r hk
    rw [hstate]
    constructor
    · intro hsome
      obtain ⟨mark, hmark⟩ := Option.isSome_iff_exists.mp hsome
      exact Remote.refetch_of_unchanged hmark hres hstatus
    · intro hmark
      obtain ⟨hresult, hcache⟩ := Remote.refetch_of_unasked hmark hres hstatus
      rw [Call.perform_of_asks r hk, Remote.Outcome.answering, hresult]
      exact ⟨rfl, _, hcache⟩

end Bulk

end RemoteFlags
