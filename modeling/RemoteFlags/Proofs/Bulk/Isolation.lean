import RemoteFlags.Proofs.Bulk.Run

/-!
# Calls are told what was sent for their context

There is one cache for all contexts, and failures leave some of its fields old and some new.  Still,
no call is told anything that the server sent for another context.

## Main definitions

* `SentFor r w log c e` — the server sent an entry for a context.
* `Call.DrawnFrom P k told` — what a call is told stems from entries with a property.

## Main results

* `Run.sentFor_of_isFor` — the entries of a cache that belongs to a context were sent for it.
* `drawnFrom_sentFor` — **isolation**: what a call is told was sent for its context.
-/

namespace RemoteFlags

/-! ### The entries of the cache -/

/-- What an entry adds to the list of all flags. -/
def Entry.value? : Entry → Option (String × Resolution)
  | .success s => some (s.key, s.resolution)
  | .failure _ => none

theorem Remote.valuesOf_eq (c : Cache) : Remote.valuesOf c = c.all.filterMap Entry.value? := by
  unfold Remote.valuesOf
  congr 1

namespace Bulk

/-! ### Where entries come from -/

/-- The server sent an entry in a response with success to an inquiry for a context. -/
def SentFor (r : Remote) (w : World) (log : List Inquiry) (c : Context) (e : Entry) : Prop :=
  ∃ i ∈ log, i.MadeBy r w ∧ i.context.same c = true ∧ ∃ es, i.entries? = some es ∧ e ∈ es

/-- What a call is told stems from entries with a property: for one flag from an entry with its key,
if there is one, and for all flags from a list of entries. -/
def Call.DrawnFrom (P : Entry → Prop) : Call → Except FlagError Told → Prop
  | .resolve key _, told =>
    ∃ found : Option Entry, told = (Remote.entryAnswer key found).map .value ∧
      ∀ e, found = some e → e.key? = some key ∧ P e
  | .list _, told => ∃ es : List Entry, told = .ok (.values (es.filterMap Entry.value?)) ∧ ∀ e ∈ es, P e

variable {r : Remote} {w : World} {x : Run}

theorem Inquiry.MadeBy.answered {i : Inquiry} (h : i.MadeBy r w) {res : Http.Response}
    (hres : i.response = some res) : ∃ n, w.network.reply n = .answered res.answer := by
  obtain ⟨pause, w', hlater, hresponse, -⟩ := h
  cases hpost : (r.post pause (r.endpoint none) i.context i.mark w').1 with
  | error e => simp [hresponse, hpost, Except.toOption] at hres
  | ok res' =>
    obtain rfl : res' = res := by simpa [hresponse, hpost, Except.toOption] using hres
    obtain ⟨n, -, -, hreply⟩ := Remote.answered_of_post hpost
    exact ⟨n, hlater.network.reply ▸ hreply⟩

theorem Run.mem_log_foldl {ks : List Call} {i : Inquiry} (h : i ∈ (ks.foldl (Run.step r) x).log) :
    i ∈ x.log ∨ ∃ k ∈ ks, k.context = i.context := by
  induction ks generalizing x with
  | nil => exact .inl h
  | cons k ks ih =>
    rcases ih h with h | ⟨k', hk', hcontext⟩
    · cases hk : k.asking? x.state x.world with
      | none =>
        rw [Run.log_step_of_answers hk] at h
        exact .inl h
      | some w' =>
        rw [Run.log_step_of_asks hk] at h
        rcases List.mem_cons.mp h with rfl | h
        · exact .inr ⟨k, List.mem_cons_self, rfl⟩
        · exact .inl h
    · exact .inr ⟨k', List.mem_cons_of_mem k hk', hcontext⟩

/-- **The entries of a cache that belongs to a context were sent for it.** -/
theorem Run.sentFor_of_isFor (h : Run.Inv r w x) {c : Context}
    (hc : x.state.cache.isFor c = true) {e : Entry} (he : e ∈ x.state.cache.all) :
    SentFor r w x.log c e := by
  obtain ⟨d, hd, hsame⟩ := Cache.isFor_iff.mp hc
  obtain ⟨l, hl, hcache, rfl⟩ := h.exists_ledger hd
  obtain ⟨later, older, hlog, -, hagain, htaken⟩ := exists_split_of_ledger h.marked hl
  rw [hcache] at he
  have hmem : e ∈ l.taken.entries := Entry.mem_of_mem_mapOf he
  -- The entries were taken in last from the stored answer, or from a later one for its context.
  obtain ⟨hlogged, htakenSame⟩ : l.taken ∈ x.log ∧ l.taken.context.same c = true := by
    rw [htaken, lastTaken]
    cases hfind : later.find? fun i => i.breaksOff r.lifetime with
    | none => exact ⟨by simp [hlog], hsame⟩
    | some i =>
      have hi := List.mem_of_find?_eq_some hfind
      refine ⟨by simp [hlog, hi], ?_⟩
      exact Context.same_trans (Context.same_symm (hagain i hi).context) hsame
  exact ⟨l.taken, hlogged, h.made _ hlogged, htakenSame, Inquiry.entries?_of_mem hmem⟩

theorem Run.key?_of_get? (h : Run.Inv r w x) {c : Context} (hc : x.state.cache.isFor c = true)
    {key : String} {e : Entry} (he : x.state.cache.get? key = some e) : e.key? = some key := by
  obtain ⟨d, hd, -⟩ := Cache.isFor_iff.mp hc
  obtain ⟨l, -, hcache, -⟩ := h.exists_ledger hd
  rw [hcache, Ledger.get?_cache] at he
  exact (Entry.mem_of_lastNamed he).2

/-! ### Isolation -/

/-- **Isolation.**  After every run, a call fails because asking the server fails, or is told what
stems from entries that the server sent for a context that equals its own.  Every inquiry that the
server sent them for was made by one of the calls, and the response to it is one of the replies of
the network. -/
theorem drawnFrom_sentFor (r : Remote) (w : World) (ks : List Call) (k : Call) :
    let x := Run.after r w ks
    let y := Run.after r w (ks ++ [k])
    (x.Fails r k ∨
      k.DrawnFrom (SentFor r w y.log k.context) (k.perform r x.state x.world).result) ∧
    ∀ i ∈ y.log, (∃ k' ∈ ks ++ [k], k'.context = i.context) ∧
      ∀ res, i.response = some res → ∃ n, w.network.reply n = .answered res.answer := by
  intro x y
  have hx : Run.Inv r w x := Run.inv_after r w ks
  have hy : Run.Inv r w y := Run.inv_after r w (ks ++ [k])
  have hstep : y = x.step r k := Run.after_concat r w ks k
  constructor
  · rcases Run.fails_or_answers hx k with hfails | ⟨htold, hfor⟩
    · exact .inl hfails
    -- The cache that gives the answer is the one after the call.
    rw [← hstep] at htold hfor
    have hsent : ∀ e ∈ y.state.cache.all, SentFor r w y.log k.context e :=
      fun e he => Run.sentFor_of_isFor hy hfor he
    right
    rw [htold]
    cases k with
    | resolve key c =>
      refine ⟨y.state.cache.get? key, rfl, ?_⟩
      intro e he
      exact ⟨Run.key?_of_get? hy hfor he, hsent e (SortedMap.mem_values_of_get? he)⟩
    | list c => exact ⟨y.state.cache.all, by rw [Call.answer, Remote.valuesOf_eq], hsent⟩
  · intro i hi
    refine ⟨?_, fun res hres => (hy.made i hi).answered hres⟩
    rcases Run.mem_log_foldl hi with hi | hcall
    · exact absurd hi List.not_mem_nil
    · exact hcall

end Bulk

end RemoteFlags
