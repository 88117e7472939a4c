import RemoteFlags.Proofs.Bulk.Ledger
import RemoteFlags.Proofs.Exchange

/-!
# One refetch

A refetch prepares the cache, asks the server, and takes in what comes back, along a dozen ways to
succeed or to fail.  Here all of them are said at once: what a refetch does is a function of its
inquiry.

## Main definitions

* `Remote.inquire` — the inquiry that a refetch makes.
* `absorb lifetime c i`, `TookIn` — the cache once an inquiry is taken in, and operations that do so.
* `Reflects lifetime c l` — the cache holds what a ledger says.

## Main results

* `Remote.tookIn_refetch` — a refetch absorbs its inquiry, and succeeds when the inquiry confirms
  the entries.
* `Remote.reflects_refetch` — **the step**: a cache that reflects a ledger reflects the ledger with
  the new inquiry recorded.
-/

namespace RemoteFlags

open Bulk

/-! ### Preparing the cache -/

namespace Remote

theorem fst_prepared (st : State) (c : Context) (w : World) :
    (prepared st c w).1 = st.cache.etagFor? c := by
  unfold prepared
  cases st.cache.etagFor? c <;> rfl

theorem prepared_of_mark {st : State} {c : Context} {mark : String}
    (h : st.cache.etagFor? c = some mark) (w : World) : prepared st c w = (some mark, st, w) := by
  unfold prepared
  rw [h]

theorem prepared_of_no_mark {st : State} {c : Context} (h : st.cache.etagFor? c = none)
    (w : World) :
    prepared st c w = (none, { st with cache := Cache.empty w.now.1 }, w.now.2) := by
  unfold prepared
  rw [h]

theorem later_prepared (st : State) (c : Context) (w : World) : w.Later (prepared st c w).2.2 := by
  cases h : st.cache.etagFor? c with
  | none => rw [prepared_of_no_mark h]; exact w.later_now
  | some mark => rw [prepared_of_mark h]; exact .refl w

theorem network_prepared (st : State) (c : Context) (w : World) :
    (prepared st c w).2.2.network = w.network := by
  cases h : st.cache.etagFor? c with
  | none => rw [prepared_of_no_mark h]; rfl
  | some mark => rw [prepared_of_mark h]

theorem pause_prepared (st : State) (c : Context) (w : World) :
    (prepared st c w).2.1.pause = st.pause := by
  cases h : st.cache.etagFor? c with
  | none => rw [prepared_of_no_mark h]
  | some mark => rw [prepared_of_mark h]

/-- The prepared cache holds an answer exactly when its mark is sent. -/
theorem context_prepared (st : State) (c : Context) (w : World) :
    (prepared st c w).2.1.cache.context.isSome = (prepared st c w).1.isSome := by
  cases h : st.cache.etagFor? c with
  | none => rw [prepared_of_no_mark h]; rfl
  | some mark =>
    rw [prepared_of_mark h]
    obtain ⟨d, hd, -⟩ := Cache.isFor_iff.mp (Cache.isFor_of_etagFor? h).1
    simp [hd]

/-! ### Inquiries of refetches -/

/-- What comes back when a refetch asks the server, and the world afterwards. -/
def bulkPost (r : Remote) (st : State) (c : Context) (w : World) :
    Except FlagError Http.Response × World :=
  r.post st.pause (r.endpoint none) c (prepared st c w).1 (prepared st c w).2.2

/-- The inquiry that a refetch makes. -/
def inquire (r : Remote) (st : State) (c : Context) (w : World) : Inquiry where
  context := c
  mark := st.cache.etagFor? c
  response := (r.bulkPost st c w).1.toOption
  time := (r.bulkPost st c w).2.now.1

theorem refetch_eq (r : Remote) (st : State) (c : Context) (w : World) :
    r.refetch st c w =
      match (r.bulkPost st c w).1 with
      | .error e => ⟨.error e, (prepared st c w).2.1, (r.bulkPost st c w).2⟩
      | .ok res => r.takeBulk (prepared st c w).2.1 c res (r.bulkPost st c w).2 := by
  -- The parts of a refetch get names, so that the matches on them reduce.
  have hpause := pause_prepared st c w
  obtain ⟨mark, st', w', hp⟩ : ∃ mark st' w', prepared st c w = (mark, st', w') := ⟨_, _, _, rfl⟩
  rw [refetch, bulkPost, ← hpause, hp]
  obtain ⟨result, w'', ha⟩ : ∃ result w'',
      r.post st'.pause (r.endpoint none) c mark w' = (result, w'') := ⟨_, _, rfl⟩
  simp only [ha]
  cases result <;> rfl

/-! ### The world after a refetch -/

theorem network_takeBulk (r : Remote) (st : State) (c : Context) (res : Http.Response)
    (w : World) : (r.takeBulk st c res w).world.network = w.network := by
  rw [takeBulk]
  split
  · rfl
  split
  · split
    · rfl
    split <;> rfl
  · exact network_refused st none res w

theorem later_takeBulk (r : Remote) (st : State) (c : Context) (res : Http.Response) (w : World) :
    w.Later (r.takeBulk st c res w).world := by
  rw [takeBulk]
  split
  · exact w.later_now
  split
  · split
    · exact .refl w
    split
    · exact .refl w
    · exact w.later_now
  · exact later_refused st none res w

theorem later_bulkPost (r : Remote) (st : State) (c : Context) (w : World) :
    w.Later (r.bulkPost st c w).2 := (later_prepared st c w).trans later_post

theorem later_refetch (r : Remote) (st : State) (c : Context) (w : World) :
    w.Later (r.refetch st c w).world := by
  have hpost := later_bulkPost r st c w
  rw [refetch_eq]
  cases (r.bulkPost st c w).1 with
  | error e => exact hpost
  | ok res => exact hpost.trans (later_takeBulk _ _ _ _ _)

end Remote

/-! ### Taking in the response -/

namespace Bulk

/-- The cache once an inquiry is taken in. -/
def absorb (lifetime : Int) (c : Cache) (i : Inquiry) : Cache :=
  if i.stores lifetime then i.snapshot lifetime
  else if i.keeps lifetime then { c with deadline := i.time.plus lifetime }
  else if i.breaksOff lifetime then { c with flags := Entry.mapOf i.entries }
  else c

/-- An operation has taken in an inquiry: the cache has absorbed it, and the operation succeeded
exactly when the inquiry confirms the entries. -/
structure TookIn (lifetime : Int) (c : Cache) (i : Inquiry) (o : Remote.Outcome Unit) : Prop where
  /-- The cache has absorbed the inquiry. -/
  cache : o.state.cache = absorb lifetime c i
  /-- Success means that the entries are confirmed. -/
  isOk : o.result.isOk = i.confirms lifetime

/-- An inquiry that lists no entries and keeps none does nothing. -/
theorem tookIn_of_nothing {lifetime : Int} {c : Cache} {i : Inquiry} {o : Remote.Outcome Unit}
    (hentries : i.entries? = none) (hkeeps : i.keeps lifetime = false)
    (hcache : o.state.cache = c) (hok : o.result.isOk = false) : TookIn lifetime c i o where
  cache := by simp [absorb, Inquiry.stores, Inquiry.breaksOff, hentries, hkeeps, hcache]
  isOk := by simp [hok, Inquiry.confirms, Inquiry.stores, hentries, hkeeps]

end Bulk

namespace Remote

section

variable {r : Remote} {st : State} {i : Inquiry} {res : Http.Response} {w : World}

theorem takeBulk_of_unchanged (hres : i.response = some res) (htime : i.time = w.now.1)
    (hmark : st.cache.context.isSome = i.mark.isSome) (hstatus : res.status = 304) :
    TookIn r.lifetime st.cache i (r.takeBulk st i.context res w) := by
  have hentries : i.entries? = none := by
    simp [Inquiry.entries?, hres, hstatus, Http.isSuccess]
  have htake : r.takeBulk st i.context res w =
      stored st w.now.2 (st.cache.extend r.lifetime i.time) := by
    rw [takeBulk, if_pos hstatus, htime]
  cases hcontext : st.cache.context with
  | none =>
    -- No mark was sent, so there is nothing that could be kept.
    have hnone : i.mark.isSome = false := by rw [← hmark, hcontext]; rfl
    have hkeeps : i.keeps r.lifetime = false := by simp [Inquiry.keeps, hnone]
    have hstored : stored st w.now.2 (st.cache.extend r.lifetime i.time) =
        ⟨.error (.cache Cache.Fault.nothingCached.message), st, w.now.2⟩ := by
      rw [stored, Cache.extend_eq, hcontext]
      rfl
    rw [htake, hstored]
    exact tookIn_of_nothing hentries hkeeps rfl rfl
  | some d =>
    -- The deadline is all that changes, if the new one can be represented.
    have hsome : i.mark.isSome = true := by rw [← hmark, hcontext]; rfl
    rw [htake, stored, Cache.extend_eq, hcontext]
    cases htimely : (i.time.after? r.lifetime).isSome with
    | false =>
      have hkeeps : i.keeps r.lifetime = false := by
        simp [Inquiry.keeps, Inquiry.isTimely, htimely]
      exact tookIn_of_nothing hentries hkeeps rfl rfl
    | true =>
      have hkeeps : i.keeps r.lifetime = true := by
        simp [Inquiry.keeps, Inquiry.isTimely, htimely, hsome, hres, hstatus]
      constructor
      · simp [absorb, Inquiry.stores, hentries, hkeeps, hcontext]
      · simp [Inquiry.confirms, hkeeps]

theorem takeBulk_of_success (hres : i.response = some res) (htime : i.time = w.now.1)
    (hsuccess : Http.isSuccess res.status = true) :
    TookIn r.lifetime st.cache i (r.takeBulk st i.context res w) := by
  have hstatus : res.status ≠ 304 := by
    intro h
    simp [h, Http.isSuccess] at hsuccess
  have hkeeps : i.keeps r.lifetime = false := by simp [Inquiry.keeps, hres, hstatus]
  -- The body must arrive and be read before anything is stored.
  rw [takeBulk, if_neg hstatus, if_pos hsuccess]
  cases htext : res.text with
  | error f =>
    have hentries : i.entries? = none := by
      simp [Inquiry.entries?, hres, hsuccess, htext, Except.toOption]
    exact tookIn_of_nothing hentries hkeeps rfl rfl
  | ok body =>
    cases hread : Json.Document.read (Entry.bulkOfOutline Json.Outline.nestingLimit) body with
    | error e =>
      have hentries : i.entries? = none := by
        simp [Inquiry.entries?, hres, hsuccess, htext, hread, Except.toOption]
      simp only [hread]
      exact tookIn_of_nothing hentries hkeeps rfl rfl
    | ok es =>
      have hentries : i.entries? = some es := by
        simp [Inquiry.entries?, hres, hsuccess, htext, hread, Except.toOption]
      have htag : i.tag? = res.headerText? "etag" := by simp [Inquiry.tag?, hres]
      -- The cases of the cache are those of the inquiry: too late, stored, or broken off.
      simp only [hread, stored, Cache.refresh_eq, ← htime]
      cases htimely : (i.time.after? r.lifetime).isSome with
      | false =>
        constructor
        · simp [absorb, Inquiry.stores, Inquiry.breaksOff, Inquiry.isTimely, htimely, hkeeps]
        · simp [Inquiry.confirms, Inquiry.stores, Inquiry.isTimely, htimely, hkeeps]
      | true =>
        cases hkeyed : Entry.allKeyed es <;> constructor <;>
          simp [absorb, Inquiry.confirms, Inquiry.stores, Inquiry.breaksOff, Inquiry.isTimely,
            Inquiry.snapshot, Inquiry.entries, htimely, hkeeps, hentries, hkeyed, htag]

theorem takeBulk_of_refusal (hres : i.response = some res) (hstatus : res.status ≠ 304)
    (hsuccess : Http.isSuccess res.status = false) :
    TookIn r.lifetime st.cache i (r.takeBulk st i.context res w) := by
  have hentries : i.entries? = none := by simp [Inquiry.entries?, hres, hsuccess]
  have hkeeps : i.keeps r.lifetime = false := by simp [Inquiry.keeps, hres, hstatus]
  obtain ⟨e, he⟩ : ∃ e, (refused st none res w : Outcome Unit).result = .error e :=
    exists_error_of_refused st none res w
  rw [takeBulk, if_neg hstatus, if_neg (by simp [hsuccess])]
  exact tookIn_of_nothing hentries hkeeps (cache_refused st none res w) (by rw [he]; rfl)

theorem tookIn_takeBulk (hres : i.response = some res) (htime : i.time = w.now.1)
    (hmark : st.cache.context.isSome = i.mark.isSome) :
    TookIn r.lifetime st.cache i (r.takeBulk st i.context res w) := by
  by_cases hstatus : res.status = 304
  · exact takeBulk_of_unchanged hres htime hmark hstatus
  · cases hsuccess : Http.isSuccess res.status with
    | true => exact takeBulk_of_success hres htime hsuccess
    | false => exact takeBulk_of_refusal hres hstatus hsuccess

end

/-- **A refetch takes in its inquiry**, from the prepared cache. -/
theorem tookIn_refetch (r : Remote) (st : State) (c : Context) (w : World) :
    TookIn r.lifetime (prepared st c w).2.1.cache (r.inquire st c w) (r.refetch st c w) := by
  -- The cache was emptied unless the inquiry carries a mark.
  have hmark : (prepared st c w).2.1.cache.context.isSome = (r.inquire st c w).mark.isSome := by
    rw [context_prepared, fst_prepared]
    rfl
  rw [refetch_eq]
  cases hpost : (r.bulkPost st c w).1 with
  | error e =>
    have hres : (r.inquire st c w).response = none := by simp [inquire, hpost, Except.toOption]
    have hentries : (r.inquire st c w).entries? = none := by simp [Inquiry.entries?, hres]
    have hkeeps : (r.inquire st c w).keeps r.lifetime = false := by simp [Inquiry.keeps, hres]
    exact tookIn_of_nothing hentries hkeeps rfl rfl
  | ok res =>
    have hres : (r.inquire st c w).response = some res := by
      simp [inquire, hpost, Except.toOption]
    exact tookIn_takeBulk (i := r.inquire st c w) hres rfl hmark

end Remote

/-! ### The step -/

namespace Bulk

/-- The cache that a ledger describes. -/
def Ledger.cache (lifetime : Int) (l : Ledger) : Cache :=
  ⟨Entry.mapOf l.taken.entries, some l.stored.context, l.stored.tag?, l.confirmed.time.plus lifetime⟩

theorem Ledger.get?_cache (lifetime : Int) (l : Ledger) (key : String) :
    (l.cache lifetime).get? key = Entry.lastNamed key (Entry.keyed l.taken.entries) :=
  Entry.get?_mapOf l.taken.entries key

/-- The cache is the one that the ledger describes, and belongs to no context without a ledger. -/
def Reflects (lifetime : Int) (c : Cache) : Option Ledger → Prop
  | none => c.context = none
  | some l => c = l.cache lifetime

variable {lifetime : Int} {c : Cache} {l : Option Ledger}

/-- The cache sends the mark that the ledger lends. -/
theorem Reflects.etagFor? (h : Reflects lifetime c l) (context : Context) :
    c.etagFor? context = markFor l context := by
  cases l with
  | none =>
    have hcontext : c.context = none := h
    simp [Cache.etagFor?, Cache.isFor, hcontext, markFor]
  | some l =>
    obtain rfl : c = l.cache lifetime := h
    cases hsame : l.stored.context.same context <;>
      simp [Cache.etagFor?, Cache.isFor, Ledger.cache, markFor, hsame]

theorem reflects_absorb_unmarked {i : Inquiry} (hc : c.context = none) (hmark : i.mark = none) :
    Reflects lifetime (absorb lifetime c i) (record lifetime l i) := by
  have hkeeps : i.keeps lifetime = false := by simp [Inquiry.keeps, hmark]
  cases hstores : i.stores lifetime with
  | true =>
    rw [record_of_stores l hstores, absorb, if_pos hstores]
    rfl
  | false =>
    have hrecord : record lifetime l i = none := by simp [record, hstores, hmark]
    rw [hrecord]
    cases hbreaks : i.breaksOff lifetime <;> simp [Reflects, absorb, hstores, hkeeps, hbreaks, hc]

theorem reflects_absorb_marked {i : Inquiry} (h : Reflects lifetime c l)
    (hmark : i.mark = markFor l i.context) (hsome : i.mark.isSome) :
    Reflects lifetime (absorb lifetime c i) (record lifetime l i) := by
  -- The ledger lent the mark, so there is one, and the cache is what it describes.
  obtain ⟨mark, hm⟩ := Option.isSome_iff_exists.mp hsome
  obtain ⟨l', rfl, -⟩ := markFor_eq_some (hmark.symm.trans hm)
  obtain rfl : c = l'.cache lifetime := h
  cases hstores : i.stores lifetime with
  | true =>
    rw [record_of_stores _ hstores, absorb, if_pos hstores]
    rfl
  | false =>
    cases hkeeps : i.keeps lifetime <;> cases hbreaks : i.breaksOff lifetime <;>
      simp [Reflects, absorb, record, Ledger.cache, hstores, hkeeps, hbreaks, hm]

end Bulk

namespace Remote

/-- **The step.**  A refetch sends the mark that the ledger lends it, and the cache afterwards
reflects the ledger with the inquiry recorded. -/
theorem reflects_refetch (r : Remote) {st : State} {l : Option Ledger}
    (h : Reflects r.lifetime st.cache l) (c : Context) (w : World) :
    (r.inquire st c w).mark = markFor l c ∧
      Reflects r.lifetime (r.refetch st c w).state.cache
        (record r.lifetime l (r.inquire st c w)) := by
  have hmark : (r.inquire st c w).mark = markFor l c := h.etagFor? c
  refine ⟨hmark, ?_⟩
  rw [(tookIn_refetch r st c w).cache]
  cases he : st.cache.etagFor? c with
  | none =>
    rw [prepared_of_no_mark he]
    exact reflects_absorb_unmarked rfl he
  | some mark =>
    rw [prepared_of_mark he]
    exact reflects_absorb_marked h hmark (by simp [inquire, he])

end Remote

end RemoteFlags
