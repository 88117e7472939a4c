import RemoteFlags.Proofs.Bulk.Run
import RemoteFlags.Proofs.Flag.Record

/-!
# What comes of an evaluation by a request of its own

The answer to the request for one flag decides what the evaluation gives.  The rules are those of
`Verdict`, one for each kind of answer; they neither overlap nor leave an answer out.  The cache
plays no part, and a pause begins only when the server asks for one.  The text of a body is the one in
its encoding, if that is one of `Text.Charset`.

## Main definitions

* `Remote.Tells` — the body of an answer tells something.
* `Remote.Verdict` — the rules.
* `Remote.TakesOver` — what a resolution takes over from a body.

## Main results

* `Remote.evaluation_of_answer` — **an evaluation gives what the rules say, whatever the answer.**
-/

namespace RemoteFlags

namespace Remote

open Json Outline

open Http (Response)

/-! ### What a body tells -/

/-- The body of an answer arrives, and tells something. -/
def Tells {α : Type} (read : Outline → Except Json.Error α) (res : Response) (a : α) : Prop :=
  ∃ body, res.text = .ok body ∧ Document.read read body = .ok a

theorem not_read_empty (f : Failure) :
    Document.read (Failure.ofOutline nestingLimit) "" ≠ .ok f := by
  have hnone : (Document.read (Failure.ofOutline nestingLimit) "").isOk = false := by
    decide +kernel
  intro h
  rw [h] at hnone
  cases hnone

theorem toldFailure?_eq_some_iff {res : Response} {f : Failure} :
    toldFailure? res = some f ↔ Tells (Failure.ofOutline nestingLimit) res f := by
  unfold toldFailure? Tells
  rw [toOption_eq_some_iff]
  cases hbody : res.text with
  | error e =>
    constructor
    · exact fun h => absurd h (not_read_empty f)
    · rintro ⟨_, ⟨⟩, _⟩
  | ok body =>
    constructor
    · exact fun h => ⟨body, rfl, h⟩
    · rintro ⟨_, ⟨⟩, h⟩
      exact h

theorem toldFailure?_eq_none_iff {res : Response} :
    toldFailure? res = none ↔ ∀ f, ¬ Tells (Failure.ofOutline nestingLimit) res f := by
  simp only [← toldFailure?_eq_some_iff, Option.eq_none_iff_forall_ne_some, ne_eq]

/-- Reading a text reads its outline. -/
theorem root_of_read {α : Type} {read : Outline → Except Json.Error α} {body : String} {a : α}
    (h : Document.read read body = .ok a) : read (Document.ofText body).root = .ok a := by
  obtain ⟨b, hb, h⟩ := bind_eq_ok_iff.mp h
  split at h
  · exact nomatch h
  · obtain rfl := Except.ok.inj h
    exact hb

/-! ### The rules -/

/-- What an evaluation gives, by the answer to its request, which arrives when the clock shows
`now`. -/
inductive Verdict (key : String) (res : Response) (now : Instant) :
    Except FlagError Resolution → Prop
  /-- An answer with success and a body that tells a success. -/
  | value {s : Success} (hstatus : Http.isSuccess res.status)
      (hbody : Tells (Success.ofOutline nestingLimit) res s) : Verdict key res now (.ok s.resolution)
  /-- An answer with success and a body that tells none. -/
  | unreadable {body : String} {e : Json.Error} (hstatus : Http.isSuccess res.status)
      (hbody : res.text = .ok body)
      (hread : Document.read (Success.ofOutline nestingLimit) body = .error e) :
      Verdict key res now (.error (.parse ("flag '" ++ key ++ "': " ++ e.message)))
  /-- An answer with success whose body does not arrive. -/
  | lost {f : Http.Fault} (hstatus : Http.isSuccess res.status) (hbody : res.text = .error f) :
      Verdict key res now (.error (.http f))
  /-- A refusal that tells a failure. -/
  | failure {f : Failure} (hstatus : res.status = 400 ∨ res.status = 404)
      (hbody : Tells (Failure.ofOutline nestingLimit) res f) :
      Verdict key res now (.error (.evaluation f.code (f.details.getD (statusMessage res))))
  /-- A flag that is not there: nothing is told about it. -/
  | notFound (hstatus : res.status = 404)
      (hbody : ∀ f, ¬ Tells (Failure.ofOutline nestingLimit) res f) :
      Verdict key res now (.error (notFound key))
  /-- A server that does not accept who is asking. -/
  | authentication (hstatus : res.status = 401 ∨ res.status = 403) :
      Verdict key res now (.error (.authentication (statusMessage res)))
  /-- A server that is asked too often. -/
  | rateLimited (hstatus : res.status = 429) :
      Verdict key res now
        (.error (.rateLimited (Pause.resumeInstant (res.headerText? "retry-after") now)))
  /-- Every other status, and a bad request about which nothing is told. -/
  | unexpected (hstatus : ¬ Http.isSuccess res.status) (hother : res.status ∉ [401, 403, 404, 429])
      (hbody : res.status = 400 → ∀ f, ¬ Tells (Failure.ofOutline nestingLimit) res f) :
      Verdict key res now (.error (unexpected res))

/-- What an answer gives, step by step. -/
def answered (key : String) (res : Response) (now : Instant) : Except FlagError Resolution :=
  if Http.isSuccess res.status then toldSuccess key res
  else if res.status = 429 then
    .error (.rateLimited (Pause.resumeInstant (res.headerText? "retry-after") now))
  else .error (refusal (some key) res)

section

variable {key : String} {res : Response} {now : Instant} {x : Except FlagError Resolution}

theorem not_isSuccess_of_le (h : 300 ≤ res.status) : ¬ Http.isSuccess res.status := by
  simp only [Http.isSuccess, Bool.and_eq_true, decide_eq_true_eq]
  omega

theorem refusal_of_told {f : Failure} (hstatus : res.status = 400 ∨ res.status = 404)
    (hbody : toldFailure? res = some f) :
    refusal (some key) res = .evaluation f.code (f.details.getD (statusMessage res)) := by
  unfold refusal
  rw [if_neg (by omega), if_pos hstatus, hbody]

theorem refusal_of_untold (hstatus : res.status = 400 ∨ res.status = 404)
    (hbody : toldFailure? res = none) :
    refusal (some key) res = if res.status = 404 then notFound key else unexpected res := by
  unfold refusal
  rw [if_neg (by omega), if_pos hstatus, hbody]

theorem refusal_of_other (hstatus : res.status ∉ [400, 401, 403, 404]) :
    refusal (some key) res = unexpected res := by
  simp only [List.mem_cons, List.not_mem_nil, or_false, not_or] at hstatus
  unfold refusal
  rw [if_neg (by omega), if_neg (by omega)]

theorem refusal_of_denied (hstatus : res.status = 401 ∨ res.status = 403) :
    refusal (some key) res = .authentication (statusMessage res) := if_pos hstatus

/-- What an answer gives follows the rules. -/
theorem verdict_answered : Verdict key res now (answered key res now) := by
  unfold answered
  split
  · next hstatus =>
    unfold toldSuccess
    cases hbody : res.text with
    | error f => exact .lost hstatus hbody
    | ok body =>
      cases hread : Document.read (Success.ofOutline nestingLimit) body with
      | ok s => simp only [hread]; exact .value hstatus ⟨body, hbody, hread⟩
      | error e => simp only [hread]; exact .unreadable hstatus hbody hread
  split
  · next hstatus => exact .rateLimited hstatus
  next hsuccess hlimit =>
  by_cases hdenied : res.status = 401 ∨ res.status = 403
  · rw [refusal_of_denied hdenied]
    exact .authentication hdenied
  by_cases hbad : res.status = 400 ∨ res.status = 404
  · cases htold : toldFailure? res with
    | some f =>
      rw [refusal_of_told hbad htold]
      exact .failure hbad (toldFailure?_eq_some_iff.mp htold)
    | none =>
      rw [refusal_of_untold hbad htold]
      have hnone := toldFailure?_eq_none_iff.mp htold
      split
      · next h404 => exact .notFound h404 hnone
      · exact .unexpected hsuccess (by simp; omega) fun _ => hnone
  · rw [refusal_of_other (by simp; omega)]
    exact .unexpected hsuccess (by simp; omega) (by omega)

/-- The rules leave no choice. -/
theorem Verdict.answered_eq (h : Verdict key res now x) : answered key res now = x := by
  unfold answered
  cases h with
  | value hstatus hbody =>
    obtain ⟨body, hbody, hread⟩ := hbody
    rw [if_pos hstatus, toldSuccess, hbody]
    simp only [hread]
  | unreadable hstatus hbody hread =>
    rw [if_pos hstatus, toldSuccess, hbody]
    simp only [hread]
  | lost hstatus hbody =>
    rw [if_pos hstatus, toldSuccess, hbody]
  | failure hstatus hbody =>
    rw [if_neg (not_isSuccess_of_le (by omega)), if_neg (by omega),
      refusal_of_told hstatus (toldFailure?_eq_some_iff.mpr hbody)]
  | notFound hstatus hbody =>
    rw [if_neg (not_isSuccess_of_le (by omega)), if_neg (by omega),
      refusal_of_untold (.inr hstatus) (toldFailure?_eq_none_iff.mpr hbody), if_pos hstatus]
  | authentication hstatus =>
    rw [if_neg (not_isSuccess_of_le (by omega)), if_neg (by omega), refusal_of_denied hstatus]
  | rateLimited hstatus =>
    rw [if_neg (not_isSuccess_of_le (by omega)), if_pos hstatus]
  | unexpected hstatus hother hbody =>
    simp only [List.mem_cons, List.not_mem_nil, or_false, not_or] at hother
    rw [if_neg hstatus, if_neg (by omega)]
    by_cases hbad : res.status = 400
    · rw [refusal_of_untold (.inl hbad) (toldFailure?_eq_none_iff.mpr (hbody hbad)),
        if_neg (by omega)]
    · rw [refusal_of_other (by simp; omega)]

theorem answered_eq_iff : answered key res now = x ↔ Verdict key res now x :=
  ⟨fun h => h ▸ verdict_answered, Verdict.answered_eq⟩

end

/-! ### What is taken over from a body -/

/-- What a resolution takes over from the success that a body tells. -/
structure TakesOver (o : Outline) (v : Resolution) : Prop where
  /-- The value. -/
  value : ∃ t, o.field 3 "value" = [.ofTree t] ∧ v.value = .ofJson (.ofTree t)
  /-- The variant. -/
  variant : Given IsText (o.field 2 "variant") v.variant
  /-- The text of the reason, if there is one. -/
  reason : ∃ text, Given IsText (o.field 1 "reason") text ∧
    v.reason = .ofText (text.getD "UNKNOWN") ∧ v.reason.text = text.getD "UNKNOWN"
  /-- The metadata, if there is any. -/
  metadata : ∃ m, Given IsMap (o.field 4 "metadata") m ∧ v.metadata = m.getD ∅

theorem takesOver_resolution {o : Outline} {s : Success} (h : s.Written o) :
    TakesOver o s.resolution where
  value := by
    obtain ⟨t, ht, hvalue⟩ := h.value
    exact ⟨t, ht, congrArg FlagValue.ofJson hvalue⟩
  variant := h.variant
  reason := by
    have hreason := h.reason
    generalize o.field 1 "reason" = os at hreason
    generalize hs : s.reason = reason at hreason
    have hv : s.resolution.reason = reason.getD .unknown := congrArg (·.getD .unknown) hs
    cases hreason with
    | missing => exact ⟨none, .missing, hv, congrArg Reason.text hv⟩
    | null => exact ⟨none, .null, hv, congrArg Reason.text hv⟩
    | once hnamed =>
      obtain ⟨text, htext, rfl⟩ := hnamed
      exact ⟨some text, .once htext, hv, (congrArg Reason.text hv).trans (Reason.text_ofText text)⟩
  metadata := ⟨s.metadata, h.metadata, rfl⟩

/-! ### Evaluations -/

/-- An evaluation with an answer: the result, and what changes. -/
theorem resolveSingle_of_answer {r : Remote} {st : State} {key : String} {c : Context} {w : World}
    {res : Response} (h : (r.post st.pause (r.endpoint (some key)) c none w).1 = .ok res) :
    let w' := (r.post st.pause (r.endpoint (some key)) c none w).2
    let o := r.resolveSingle st key c w
    o.result = answered key res w'.now.1 ∧
      o.state = { st with
        pause := if res.status = 429
          then some (Pause.resumeInstant (res.headerText? "retry-after") w'.now.1)
          else st.pause } := by
  intro w' o
  have ho : o = if Http.isSuccess res.status then ⟨toldSuccess key res, st, w'⟩
      else refused st (some key) res w' := by
    rw [show o = _ from resolveSingle_eq r st key c w, h]
  rw [ho, answered, refused]
  by_cases hlimit : res.status = 429
  · have hsuccess : ¬ Http.isSuccess res.status := not_isSuccess_of_le (by omega)
    rw [if_neg hsuccess, if_neg hsuccess, if_pos hlimit, if_pos hlimit, if_pos hlimit]
    exact ⟨rfl, rfl⟩
  · rw [if_neg hlimit, if_neg hlimit, if_neg hlimit]
    split <;> exact ⟨rfl, rfl⟩

/-- The cache plays no part in an evaluation by a request of its own. -/
theorem resolveSingle_with_cache (r : Remote) (st : State) (cache : Cache) (key : String)
    (c : Context) (w : World) :
    r.resolveSingle { st with cache := cache } key c w =
      ⟨(r.resolveSingle st key c w).result,
        { (r.resolveSingle st key c w).state with cache := cache },
        (r.resolveSingle st key c w).world⟩ := by
  rw [resolveSingle_eq, resolveSingle_eq]
  cases (r.post st.pause (r.endpoint (some key)) c none w).1 with
  | error e => rfl
  | ok res =>
    dsimp only
    unfold refused
    split
    · rfl
    · split <;> rfl

/-- **What comes of an evaluation by a request of its own.**  When the request is answered, the result
is the one that the rules give.  The state stays, apart from a pause that the server asks for; with
another cache the same comes of it, and that cache stays.  A value is what the body carries, and a
failure that a body tells is what is written there. -/
theorem evaluation_of_answer {r : Remote} {st : State} {key : String} {c : Context} {w : World}
    {res : Response} (h : (r.post st.pause (r.endpoint (some key)) c none w).1 = .ok res) :
    let now := (r.post st.pause (r.endpoint (some key)) c none w).2.now.1
    let o := r.resolveSingle st key c w
    (∀ x, o.result = x ↔ Verdict key res now x) ∧
    o.state = { st with
      pause := if res.status = 429
        then some (Pause.resumeInstant (res.headerText? "retry-after") now)
        else st.pause } ∧
    (∀ cache, r.resolveSingle { st with cache := cache } key c w =
      ⟨o.result, { o.state with cache := cache }, o.world⟩) ∧
    (∀ v, o.result = .ok v →
      ∃ body, res.text = .ok body ∧ TakesOver (Document.ofText body).root v) ∧
    ∀ f, Tells (Failure.ofOutline nestingLimit) res f →
      ∃ body, res.text = .ok body ∧ Failure.Written (Document.ofText body).root f := by
  intro now o
  obtain ⟨hresult, hstate⟩ := resolveSingle_of_answer h
  have hverdict : ∀ x, o.result = x ↔ Verdict key res now x := by
    intro x
    rw [hresult]
    exact answered_eq_iff
  refine ⟨hverdict, hstate, fun cache => resolveSingle_with_cache r st cache key c w, ?_, ?_⟩
  · intro v hv
    cases (hverdict _).mp hv with
    | value hstatus hbody =>
      obtain ⟨body, htext, hread⟩ := hbody
      exact ⟨body, htext, takesOver_resolution (Success.written_of_ofOutline (root_of_read hread))⟩
  · rintro f ⟨body, htext, hread⟩
    exact ⟨body, htext, Failure.written_of_ofOutline (root_of_read hread)⟩

/-- A server that could not evaluate the flag, and does not say why in words. -/
def tersely : Nat → Http.Reply
  | 0 => .answered
    { status := 404
      body := Text.utf8 "\x7b\"key\":\"a\",\"errorCode\":\"PARSE_ERROR\",\"errorDetails\":null\x7d" }
  | _ => .lost

/-- The world with that server and a clock that stands still. -/
def terseWorld : World := ⟨{ reply := tersely }, { reading := fun _ => ⟨0, 0⟩ }⟩

/-- In that world the failure has the code of the body, and its words name the status. -/
theorem evaluation_of_terse_answer :
    let r := Bulk.minuteRemote
    ∃ res, (r.post none (r.endpoint (some "a")) ∅ none terseWorld).1 = .ok res ∧
      (r.resolveSingle (.initial ⟨0, 0⟩) "a" ∅ terseWorld).result =
        .error (.evaluation .parseError (statusMessage res)) := by
  intro r
  have hanswer : (((r.post none (r.endpoint (some "a")) ∅ none terseWorld).1.toOption).any
      fun res => decide (res.status = 404) &&
        decide (toldFailure? res = some ⟨some "a", .parseError, none⟩)) = true := by
    decide +kernel
  obtain ⟨res, hres, htold⟩ := (Option.any_eq_true _ _).mp hanswer
  obtain ⟨hstatus, htold⟩ := Bool.and_eq_true_iff.mp htold
  have hpost : (r.post (State.initial ⟨0, 0⟩).pause (r.endpoint (some "a")) ∅ none terseWorld).1 =
      .ok res := toOption_eq_some_iff.mp hres
  have hbody := toldFailure?_eq_some_iff.mp (of_decide_eq_true htold)
  exact ⟨res, hpost, ((evaluation_of_answer hpost).1 _).mpr
    (.failure (.inr (of_decide_eq_true hstatus)) hbody)⟩

end Remote

end RemoteFlags
