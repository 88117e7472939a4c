import RemoteFlags.Proofs.Bulk.Snapshot
import RemoteFlags.Proofs.Single

/-!
# One flag at a time, or all at once

A provider can ask for a flag alone or for all flags at once.  Alone, the reply is read and told; all
at once, the entries of the answer go into the cache by their keys, and the entry that is found there
is told.  Both ways tell the same about a flag, if the reply to the one request carries what the last
entry with the key of the flag carries in the answer to the other.  What a body carries is read from
its text in an encoding of `Text.Charset`.

## Main definitions

* `Remote.ToldAlone key res result` — what a provider that asks for one flag at a time tells.
* `Remote.Agrees key told e?` — what is told about a flag agrees with that.

## Main results

* `Remote.agrees_entryAnswer` — what the cache tells about an entry agrees.
* `Run.result_of_kept` — calls are told what the last answer says, as long as it is kept.
* `agrees_of_answer` — **a provider that asks for all flags at once agrees with one that asks for
  one flag at a time.**
-/

namespace RemoteFlags

/-! ### One flag at a time -/

@[simp] theorem Text.Charset.decode_nil (c : Text.Charset) : c.decode [] = "" := by
  cases c <;> rfl

namespace Remote

variable {key : String} {res : Http.Response} {result : Except FlagError Resolution}

/-- Some provider that asks for one flag at a time asked for a flag, got a response, and told this. -/
def ToldAlone (key : String) (res : Http.Response) (result : Except FlagError Resolution) : Prop :=
  ∃ (r : Remote) (st : State) (c : Context) (w : World), r.mode = .single ∧
    (r.post st.pause (r.endpoint (some key)) c none w).1 = .ok res ∧
    (r.resolve st key c w).result = result

theorem toldAlone_of_success {s : Success} (h : ToldAlone key res result)
    (hs : success? res = some s) : result = .ok s.resolution := by
  obtain ⟨r, st, c, w, hmode, hpost, rfl⟩ := h
  have hresolve : r.resolve st key c w = r.resolveSingle st key c w := by
    rw [resolve, hmode]
  rw [hresolve]
  rcases resolveSingle_of_response hpost with ⟨s', hs', hresult, -⟩ | ⟨hnone, -⟩
  · obtain rfl : s' = s := Option.some.inj (hs'.symm.trans hs)
    exact hresult
  · rw [hs] at hnone
    cases hnone

theorem toldAlone_of_refusal (h : ToldAlone key res result)
    (hstatus : res.status = 400 ∨ res.status = 404) : result = .error (refusal (some key) res) := by
  obtain ⟨r, st, c, w, hmode, hpost, rfl⟩ := h
  have hfails : Http.isSuccess res.status = false := by
    rcases hstatus with h | h <;> rw [h] <;> rfl
  have hpause : res.status ≠ 429 := by omega
  rw [resolve, hmode]
  dsimp only
  rw [resolveSingle_eq, hpost]
  dsimp only
  rw [if_neg (by simp [hfails]), refused, if_neg hpause]

theorem refusal_of_toldFailure {f : Failure} (hstatus : res.status = 400 ∨ res.status = 404)
    (hf : toldFailure? res = some f) :
    refusal (some key) res = .evaluation f.code (f.details.getD (statusMessage res)) := by
  have hother : ¬ (res.status = 401 ∨ res.status = 403) := by omega
  unfold refusal
  rw [if_neg hother, if_pos hstatus, hf]

/-- An empty body tells no failure, and neither does a body that does not arrive. -/
theorem toldFailure?_of_empty (h : res.answer.body = []) : toldFailure? res = none := by
  have hempty : (Json.Document.read (Failure.ofOutline Json.Outline.nestingLimit) "").toOption =
      none := by
    decide +kernel
  have htext : ∀ body, res.text = .ok body → body = "" := by
    intro body hbody
    unfold Http.Response.text at hbody
    split at hbody
    · exact (Except.ok.inj hbody).symm
    split at hbody
    · cases hbody
    · rw [h, Text.Charset.decode_nil] at hbody
      exact (Except.ok.inj hbody).symm
  unfold toldFailure?
  cases hbody : res.text with
  | error f => exact hempty
  | ok body =>
    rw [htext body hbody]
    exact hempty

theorem refusal_of_empty (hstatus : res.status = 404) (h : res.answer.body = []) :
    refusal (some key) res = notFound key := by
  have hother : ¬ (res.status = 401 ∨ res.status = 403) := by omega
  unfold refusal
  rw [if_neg hother, if_pos (.inr hstatus), toldFailure?_of_empty h]
  exact if_pos hstatus

/-! ### Agreement -/

/-- What is told about a flag agrees with what a provider that asks for one flag at a time tells.

For a value that is the resolution with another reason, when the reply carries the value.  For a
failure it is the same failure, when the reply carries it with its details; without details both
choose words of their own.  For no entry at all it is the failure that an empty reply with status
404 stands for. -/
def Agrees (key : String) (told : Except FlagError Resolution) : Option Entry → Prop
  | some (.success s) =>
    told = .ok { s.resolution with reason := .cached } ∧
      ∀ res alone, success? res = some s → ToldAlone key res alone → alone = .ok s.resolution
  | some (.failure f) =>
    (∃ text, told = .error (.evaluation f.code text)) ∧
      ∀ details, f.details = some details → told = .error (.evaluation f.code details) ∧
        ∀ res alone, res.status = 400 ∨ res.status = 404 → toldFailure? res = some f →
          ToldAlone key res alone → alone = told
  | none =>
    told = .error (.evaluation .flagNotFound ("Flag '" ++ key ++ "' was not found")) ∧
      ∀ res alone, res.status = 404 → res.answer.body = [] → ToldAlone key res alone → alone = told

/-- **What the cache tells about an entry agrees.** -/
theorem agrees_entryAnswer (key : String) (e? : Option Entry) :
    Agrees key (entryAnswer key e?) e? := by
  cases e? with
  | none =>
    refine ⟨rfl, ?_⟩
    intro res alone hstatus hbody halone
    rw [toldAlone_of_refusal halone (.inr hstatus), refusal_of_empty hstatus hbody]
    rfl
  | some e =>
    cases e with
    | success s =>
      refine ⟨rfl, ?_⟩
      intro res alone hs halone
      exact toldAlone_of_success halone hs
    | failure f =>
      refine ⟨⟨_, rfl⟩, ?_⟩
      intro details hdetails
      have htold : entryAnswer key (some (.failure f)) = .error (.evaluation f.code details) := by
        rw [entryAnswer, hdetails]
        rfl
      refine ⟨htold, ?_⟩
      intro res alone hstatus hf halone
      rw [toldAlone_of_refusal halone hstatus, refusal_of_toldFailure hstatus hf, hdetails, htold]
      rfl

end Remote

/-! ### Answers that are kept -/

namespace Bulk

open Remote (State Outcome Agrees entryAnswer)

/-- An answer that was stored stays in the cache as long as the server says that it still holds. -/
theorem ledger_of_kept {lifetime : Int} {later older : List Inquiry} {s : Inquiry}
    (hstores : s.stores lifetime = true) (h : ∀ i ∈ later, i.keeps lifetime = true) :
    ∃ last, ledger lifetime (later ++ s :: older) = some ⟨s, s, last⟩ := by
  induction later with
  | nil => exact ⟨s, record_of_stores _ hstores⟩
  | cons i later ih =>
    obtain ⟨last, hl⟩ := ih fun j hj => h j (List.mem_cons_of_mem i hj)
    have hkeeps : i.keeps lifetime = true := h i List.mem_cons_self
    -- A response that keeps an answer was asked for with its mark, and lists nothing itself.
    have hmark : i.mark.isSome = true := by
      simp only [Inquiry.keeps, Bool.and_eq_true] at hkeeps
      exact hkeeps.1.2
    have hnothing : i.stores lifetime = false := by
      cases hes : i.entries? with
      | none => simp [Inquiry.stores, hes]
      | some es =>
        rw [Inquiry.not_keeps_of_entries? hes] at hkeeps
        cases hkeeps
    have hopen : i.mark.isNone = false := by
      rw [← Option.not_isSome, hmark]
      rfl
    refine ⟨i, ?_⟩
    rw [List.cons_append, ledger, hl, record, if_neg (by simp [hnothing]), if_neg (by simp [hopen])]
    simp [hkeeps]

theorem Inquiry.get?_snapshot {lifetime : Int} {i : Inquiry} (h : i.stores lifetime = true)
    (key : String) : (i.snapshot lifetime).get? key = Entry.lastNamed key i.entries := by
  have hkeyed : Entry.keyed i.entries = i.entries := Entry.keyed_eq_self (allKeyed_of_stores h)
  rw [snapshot, Cache.get?, Entry.get?_mapOf, hkeyed]

namespace Run

variable {r : Remote} {w : World} {x : Run}

/-- A call is told what the last answer says, if the server has only kept that answer since. -/
theorem result_of_kept (h : Inv r w x) (k : Call) {s : Inquiry} {later older : List Inquiry}
    (hlog : (x.step r k).log = later ++ s :: older) (hstores : s.stores r.lifetime = true)
    (hkept : ∀ i ∈ later, i.keeps r.lifetime = true) :
    (k.perform r x.state x.world).result = k.answer (s.snapshot r.lifetime) := by
  rcases fails_or_answers h k with ⟨w', e, -, hasked, hconfirms, -⟩ | ⟨htold, -⟩
  · -- The inquiry of a call that fails confirms nothing, but all inquiries in question do.
    rw [hlog] at hasked
    cases later with
    | nil =>
      obtain ⟨rfl, -⟩ := List.cons.inj hasked
      simp [Inquiry.confirms, hstores] at hconfirms
    | cons i later =>
      obtain ⟨rfl, -⟩ := List.cons.inj hasked
      simp [Inquiry.confirms, hkept _ List.mem_cons_self] at hconfirms
  · obtain ⟨last, hl⟩ := ledger_of_kept hstores hkept
    rw [← hlog] at hl
    have hcache := (inv_step h k).cache_eq hl
    rw [htold, hcache]
    apply Call.answer_congr
    intro key
    rw [Ledger.get?_cache, Inquiry.get?_snapshot hstores,
      Entry.keyed_eq_self (Inquiry.allKeyed_of_stores hstores)]

end Run

/-- What a call for one flag is told determines what the provider tells. -/
theorem resolve_eq_of_perform {r : Remote} (hmode : r.mode = .bulk) {st : State} {w : World}
    {key : String} {c : Context} {cache : Cache}
    (h : ((Call.resolve key c).perform r st w).result = (Call.resolve key c).answer cache) :
    (r.resolve st key c w).result = entryAnswer key (cache.get? key) := by
  rw [Call.perform_resolve hmode, Outcome.map, Call.answer] at h
  generalize (r.resolve st key c w).result = told, entryAnswer key (cache.get? key) = found at h ⊢
  cases told <;> cases found <;> simp_all [Except.map]

/-- An answer whose deadline cannot be represented makes the refetch fail. -/
theorem refetch_of_untimely {r : Remote} {st : State} {c : Context} {w : World} {es : List Entry}
    (hes : (r.inquire st c w).entries? = some es)
    (htimely : (r.inquire st c w).isTimely r.lifetime = false) :
    (r.refetch st c w).result =
      .error (.cache (Cache.Fault.lifetimeOutOfRange r.lifetime).message) := by
  rw [Remote.refetch_eq]
  cases hpost : (r.bulkPost st c w).1 with
  | error e => simp [Inquiry.entries?, Remote.inquire, hpost, Except.toOption] at hes
  | ok res =>
    have hresponse : (r.inquire st c w).response = some res := by
      rw [Remote.inquire, hpost]
      rfl
    have hlate : ((r.bulkPost st c w).2.now.1.after? r.lifetime).isSome = false := htimely
    simp only [Inquiry.entries?, hresponse, Option.bind_some] at hes
    cases hsuccess : Http.isSuccess res.status with
    | false => simp [hsuccess] at hes
    | true =>
      have hstatus : res.status ≠ 304 := by
        intro h
        simp [h, Http.isSuccess] at hsuccess
      rw [hsuccess, if_pos rfl] at hes
      dsimp only
      rw [Remote.takeBulk, if_neg hstatus, if_pos hsuccess]
      cases htext : res.text with
      | error f => simp [htext, Except.toOption] at hes
      | ok body =>
        cases hread : Json.Document.read (Entry.bulkOfOutline Json.Outline.nestingLimit) body with
        | error e => simp [htext, hread, Except.toOption] at hes
        | ok es' =>
          simp only [hread, Remote.stored, Cache.refresh_eq, hlate]
          rfl

/-- **Both ways to ask for a flag agree.**  After every run of a provider that asks for all flags at
once, let a call for a flag make an inquiry, and let its response list entries that all have keys.
Then the result of the call agrees with the last entry with the key of the flag, and so does the
result of every later call, for any flag, as long as the server is not asked again or only says that
the answer still holds.  If the deadline of the answer cannot be represented, there is nothing to be
told: the call fails. -/
theorem agrees_of_answer {r : Remote} (hmode : r.mode = .bulk) (w : World) (ks : List Call)
    (key : String) (c : Context) {i : Inquiry} {es : List Entry}
    (hi : (Call.resolve key c).inquiry? r (Run.after r w ks).state (Run.after r w ks).world = some i)
    (hes : i.entries? = some es) (hkeyed : Entry.allKeyed es = true) :
    let x := Run.after r w ks
    let y := x.step r (.resolve key c)
    (i.isTimely r.lifetime = true →
      Agrees key (r.resolve x.state key c x.world).result (Entry.lastNamed key es) ∧
      ∀ (ks' : List Call) (key' : String) (c' : Context) (later : List Inquiry),
        let z := ks'.foldl (Run.step r) y
        (z.step r (.resolve key' c')).log = later ++ y.log →
        (∀ j ∈ later, j.keeps r.lifetime = true) →
        Agrees key' (r.resolve z.state key' c' z.world).result (Entry.lastNamed key' es)) ∧
    (i.isTimely r.lifetime = false → (r.resolve x.state key c x.world).result =
      .error (.cache (Cache.Fault.lifetimeOutOfRange r.lifetime).message)) := by
  intro x y
  have hx : Run.Inv r w x := Run.inv_after r w ks
  obtain ⟨w', hasking, hinquire⟩ := Option.map_eq_some_iff.mp hi
  have hlog : y.log = i :: x.log := by
    rw [← hinquire]
    exact Run.log_step_of_asks hasking
  constructor
  · intro htimely
    have hstores : i.stores r.lifetime = true := by
      rw [Inquiry.stores, htimely]
      exact (Option.any_eq_true _ _).mpr ⟨es, hes, hkeyed⟩
    have hentries : i.entries = es := by
      rw [Inquiry.entries, hes]
      rfl
    -- Wherever a call finds the answer kept, it is told the last entry with its key.
    have hagrees : ∀ z : Run, Run.Inv r w z → ∀ (key' : String) (c' : Context)
        (later : List Inquiry), (z.step r (.resolve key' c')).log = later ++ y.log →
        (∀ j ∈ later, j.keeps r.lifetime = true) →
        Agrees key' (r.resolve z.state key' c' z.world).result (Entry.lastNamed key' es) := by
      intro z hz key' c' later hlater hkept
      rw [hlog] at hlater
      have htold := Run.result_of_kept hz (.resolve key' c') hlater hstores hkept
      rw [resolve_eq_of_perform hmode htold, Inquiry.get?_snapshot hstores, hentries]
      exact Remote.agrees_entryAnswer key' _
    refine ⟨hagrees x hx key c [] rfl (by simp), ?_⟩
    intro ks' key' c' later z hlater hkept
    exact hagrees z (Run.inv_foldl (Run.inv_step hx _) ks') key' c' later hlater hkept
  · intro htimely
    rw [← hinquire] at hes htimely
    have hfails := refetch_of_untimely hes htimely
    have hperform := Call.perform_of_asks r hasking
    rw [Call.perform_resolve hmode, Outcome.answering, hfails] at hperform
    have hresult : (r.resolve x.state key c x.world).result.map Told.value =
        .error (.cache (Cache.Fault.lifetimeOutOfRange r.lifetime).message) :=
      congrArg Outcome.result hperform
    cases htold : (r.resolve x.state key c x.world).result with
    | error e => simpa [htold, Except.map] using hresult
    | ok resolution => simp [htold, Except.map] at hresult

/-- A server whose answer names the flag `a` twice, and says that the flag `b` has no value. -/
def repeatingReply : Nat → Http.Reply
  | 0 => .answered
    { status := 200
      body := Text.utf8 ("\x7b\"flags\":[\x7b\"key\":\"a\",\"value\":1\x7d," ++
        "\x7b\"key\":\"b\",\"errorCode\":\"PARSE_ERROR\",\"errorDetails\":\"bad rule\"\x7d," ++
        "\x7b\"key\":\"a\",\"value\":2\x7d]\x7d") }
  | _ => .lost

/-- The world with that server and a clock that stands still. -/
def repeatingWorld : World := ⟨{ reply := repeatingReply }, { reading := fun _ => ⟨0, 0⟩ }⟩

/-- In that world the first call takes in three entries, and agrees with the last one of the two for
its flag. -/
theorem agrees_on_repeated_flag :
    let x := Run.after minuteRemote repeatingWorld []
    ∃ i es, (Call.resolve "a" ∅).inquiry? minuteRemote x.state x.world = some i ∧
      i.entries? = some es ∧ Entry.allKeyed es = true ∧ es.length = 3 ∧
      Agrees "a" (minuteRemote.resolve x.state "a" ∅ x.world).result (Entry.lastNamed "a" es) := by
  intro x
  have hinquiry : (((Call.resolve "a" ∅).inquiry? minuteRemote
      (Run.after minuteRemote repeatingWorld []).state
      (Run.after minuteRemote repeatingWorld []).world).any fun i =>
        i.isTimely minuteRemote.lifetime &&
          i.entries?.any fun es => Entry.allKeyed es && es.length == 3) = true := by
    decide +kernel
  obtain ⟨i, hi, hanswer⟩ := (Option.any_eq_true _ _).mp hinquiry
  obtain ⟨htimely, hanswer⟩ := Bool.and_eq_true_iff.mp hanswer
  obtain ⟨es, hes, hentries⟩ := (Option.any_eq_true _ _).mp hanswer
  obtain ⟨hkeyed, hlength⟩ := Bool.and_eq_true_iff.mp hentries
  refine ⟨i, es, hi, hes, hkeyed, by simpa using hlength, ?_⟩
  exact ((agrees_of_answer rfl repeatingWorld [] "a" ∅ hi hes hkeyed).1 htimely).1

end Bulk

end RemoteFlags
