import RemoteFlags.Proofs.Bulk.Run

/-!
# Which answer the cache holds

A cache that belongs to a context goes back to one answer of the server: its mark is the mark of that
answer, and every later inquiry asked whether that answer still holds.  Its entries are the ones of
that answer too, unless a later answer broke off at an entry that names no flag: then the entries
before the break have replaced them, while context and mark stayed.  The next time that the server
says that nothing changed, they are served.

## Main definitions

* `GoesBackTo lifetime log s later` — the answer that a log goes back to, and what came after it.
* `Intact lifetime s later` — the answers that broke off since left the entries as they were.

## Main results

* `snapshot_iff_intact` — **the cache holds its answer exactly when it is intact**, and what calls
  are told.
* `not_snapshot` — a run after which the cache holds no answer of the server.
-/

namespace RemoteFlags
namespace Bulk

/-! ### The answer that a log goes back to -/

/-- The log goes back to an answer: it was stored, and all later inquiries ask for it again. -/
structure GoesBackTo (lifetime : Int) (log : List Inquiry) (s : Inquiry) (later : List Inquiry) :
    Prop where
  /-- The inquiry stands in the log. -/
  split : ∃ older, log = later ++ s :: older
  /-- Its answer was stored. -/
  stores : s.stores lifetime = true
  /-- All later ones carry its mark, and none of their answers was stored. -/
  again : ∀ i ∈ later, Inquiry.AsksAgain lifetime s i

/-- The last answer that broke off since, if there is one, names the same entries before its break as
the whole answer that the log goes back to. -/
def Intact (lifetime : Int) (s : Inquiry) (later : List Inquiry) : Prop :=
  ∀ i, (later.find? fun i => i.breaksOff lifetime) = some i →
    ∀ key, Entry.lastNamed key (Entry.keyed i.entries) = Entry.lastNamed key s.entries

variable {lifetime : Int} {s : Inquiry} {later : List Inquiry}

/-- The entries that were taken in last are those of the stored answer exactly when it is intact. -/
theorem lastTaken_iff_intact (h : s.stores lifetime = true) :
    (∀ key, Entry.lastNamed key (Entry.keyed (lastTaken lifetime s later).entries) =
      Entry.lastNamed key s.entries) ↔ Intact lifetime s later := by
  unfold Intact lastTaken
  cases hfind : later.find? fun i => i.breaksOff lifetime with
  | none =>
    have hkeyed : Entry.keyed s.entries = s.entries :=
      Entry.keyed_eq_self (Inquiry.allKeyed_of_stores h)
    simp [hkeyed]
  | some i => simp

theorem Call.answer_congr {c d : Cache} (h : ∀ key, c.get? key = d.get? key) (k : Call) :
    k.answer c = k.answer d := by
  have hflags : c.flags = d.flags := SortedMap.ext_get? h
  cases k with
  | resolve key context => rw [answer, answer, h key]
  | list context => rw [answer, answer, Remote.valuesOf, Remote.valuesOf, Cache.all, Cache.all, hflags]

/-! ### The cache after a run -/

section

variable {r : Remote} {w : World} {x : Run}

/-- A cache that belongs to a context goes back to an answer. -/
theorem Run.goesBackTo (h : Run.Inv r w x) {d : Context} (hd : x.state.cache.context = some d) :
    ∃ s later, GoesBackTo r.lifetime x.log s later ∧ d = s.context ∧
      x.state.cache.etag = s.tag? ∧
      ∀ key, x.state.cache.get? key =
        Entry.lastNamed key (Entry.keyed (lastTaken r.lifetime s later).entries) := by
  obtain ⟨l, hl, hcache, rfl⟩ := h.exists_ledger hd
  obtain ⟨later, older, hlog, hstores, hagain, htaken⟩ := exists_split_of_ledger h.marked hl
  rw [hcache]
  refine ⟨l.stored, later, ⟨⟨older, hlog⟩, hstores, hagain⟩, rfl, rfl, ?_⟩
  intro key
  rw [Ledger.get?_cache, htaken]

end

/-- **The cache holds its answer exactly when it is intact.**  After every run the cache belongs to
no context, or goes back to one answer of the server, whose context and mark it has; the entries are
the complete ones of that answer exactly when it is intact.  The call that follows fails after an
inquiry that confirms nothing, or is told what the cache holds then: if the answer that it goes back
to is intact, what that answer says. -/
theorem snapshot_iff_intact (r : Remote) (w : World) (ks : List Call) (k : Call) :
    let x := Run.after r w ks
    let y := x.step r k
    let told := (k.perform r x.state x.world).result
    (∀ i ∈ y.log, i.MadeBy r w) ∧
    (x.state.cache.context = none ∨
      ∃ s later, GoesBackTo r.lifetime x.log s later ∧ x.state.cache.context = some s.context ∧
        x.state.cache.etag = s.tag? ∧
        ((∀ key, x.state.cache.get? key = Entry.lastNamed key s.entries) ↔
          Intact r.lifetime s later)) ∧
    (x.Fails r k ∨
      ∃ s later, GoesBackTo r.lifetime y.log s later ∧ s.context.same k.context = true ∧
        told = k.answer y.state.cache ∧
        (∀ key, y.state.cache.get? key =
          Entry.lastNamed key (Entry.keyed (lastTaken r.lifetime s later).entries)) ∧
        (Intact r.lifetime s later → told = k.answer (s.snapshot r.lifetime))) := by
  intro x y told
  have hx : Run.Inv r w x := Run.inv_after r w ks
  have hy : Run.Inv r w y := Run.inv_step hx k
  refine ⟨hy.made, ?_, ?_⟩
  · cases hd : x.state.cache.context with
    | none => exact .inl rfl
    | some d =>
      obtain ⟨s, later, hback, rfl, htag, hget⟩ := Run.goesBackTo hx hd
      refine .inr ⟨s, later, hback, rfl, htag, ?_⟩
      simp only [hget]
      exact lastTaken_iff_intact hback.stores
  · rcases Run.fails_or_answers hx k with hfails | ⟨htold, hfor⟩
    · exact .inl hfails
    obtain ⟨d, hd, hsame⟩ := Cache.isFor_iff.mp hfor
    obtain ⟨s, later, hback, rfl, htag, hget⟩ := Run.goesBackTo hy hd
    refine .inr ⟨s, later, hback, hsame, htold, hget, ?_⟩
    -- Calls only look at the entries, and those are the ones of the stored answer.
    intro hintact
    have hentries : ∀ key, y.state.cache.get? key = (s.snapshot r.lifetime).get? key := by
      intro key
      have hkeyed : Entry.keyed s.entries = s.entries :=
        Entry.keyed_eq_self (Inquiry.allKeyed_of_stores hback.stores)
      calc y.state.cache.get? key
        _ = Entry.lastNamed key s.entries := by
          rw [hget key, (lastTaken_iff_intact hback.stores).mpr hintact key]
        _ = (s.snapshot r.lifetime).get? key := by
          rw [Inquiry.snapshot, Cache.get?, Entry.get?_mapOf, hkeyed]
    exact htold.trans (k.answer_congr hentries)

/-! ### An answer that broke off -/

/-- A server that knows the flags `a` and `b`, then gives an answer whose second entry names no flag,
and then says that nothing changed. -/
def breakingReply : Nat → Http.Reply
  | 0 => .answered
    { status := 200
      headers := [("etag", "v1")]
      body := Text.utf8
        "\x7b\"flags\":[\x7b\"key\":\"a\",\"value\":true\x7d,\x7b\"key\":\"b\",\"value\":1\x7d]\x7d" }
  | 1 => .answered
    { status := 200
      headers := [("etag", "v2")]
      body := Text.utf8
        "\x7b\"flags\":[\x7b\"key\":\"c\",\"value\":2\x7d,\x7b\"errorCode\":\"GENERAL\"\x7d]\x7d" }
  | _ => .answered { status := 304 }

/-- The world with that server, in which the clock is read every hundred seconds. -/
def breakingWorld : World := ⟨{ reply := breakingReply }, { reading := fun n => ⟨100 * n, 0⟩ }⟩

/-- Three calls for all flags in that world. -/
def brokenCalls : List Call := [.list ∅, .list ∅, .list ∅]

/-- **A run after which the cache holds no answer of the server.**  It has the mark of the first answer
and the flag `c` of the second one, so no answer with its mark lists its entries. -/
theorem not_snapshot :
    ¬ ∀ (r : Remote) (w : World) (ks : List Call), w.clock.IsMonotone →
      (Run.after r w ks).state.cache.context.isSome = true →
      ∃ i ∈ (Run.after r w ks).log, ∃ es, i.entries? = some es ∧
        (∀ key, (Run.after r w ks).state.cache.get? key = Entry.lastNamed key es) ∧
        (Run.after r w ks).state.cache.etag = i.tag? := by
  intro h
  have hmonotone : breakingWorld.clock.IsMonotone := by
    intro i j hij
    show ¬ (_ ∨ _)
    simp only [breakingWorld]
    omega
  -- The cache has lost the flag `a`, but the only answer with its mark lists it.
  have hrun : ((Run.after minuteRemote breakingWorld brokenCalls).state.cache.context.isSome &&
      ((Run.after minuteRemote breakingWorld brokenCalls).state.cache.get? "a").isNone &&
      (Run.after minuteRemote breakingWorld brokenCalls).log.all fun i =>
        i.tag? != (Run.after minuteRemote breakingWorld brokenCalls).state.cache.etag ||
          i.entries?.all fun es => (Entry.lastNamed "a" es).isSome) = true := by
    decide +kernel
  simp only [Bool.and_eq_true, List.all_eq_true] at hrun
  obtain ⟨⟨hcontext, hlost⟩, hlog⟩ := hrun
  obtain ⟨i, hi, es, hes, hget, htag⟩ := h minuteRemote breakingWorld brokenCalls hmonotone hcontext
  have hlisted : (Entry.lastNamed "a" es).isSome = true := by
    simpa [htag, hes] using hlog i hi
  rw [← hget "a", Option.isNone_iff_eq_none.mp hlost] at hlisted
  simp at hlisted

end Bulk
end RemoteFlags
