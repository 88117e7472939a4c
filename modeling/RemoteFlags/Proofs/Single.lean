import RemoteFlags.Proofs.Exchange

/-!
# One flag at a time, on the wire

A provider that asks once for each evaluation sends one request, provided that the HTTP library can
name its place, and is told what the reply tells.

## Main definitions

* `Network.StaysPut` — a network on which no reply redirects.
* `Network.IsPlain` — a network of that kind on which all requests arrive.
* `Remote.AsksOnce` — a provider that sends one request for each evaluation.
* `Http.Reply.Tells reply s` — the reply tells a success.

## Main results

* `Network.send_of_staysPut`, `Network.send_of_target`, `Network.send_of_not_target` — a request on
  such networks.
* `Remote.resolveSingle_spec` — **an evaluation on the wire.**
-/

namespace RemoteFlags

/-! ### Plain networks -/

/-- What comes of a request to a place, given what becomes of it. -/
def Http.Reply.outcome (u : Url) : Http.Reply → Except Http.Fault Http.Response
  | .answered a => .ok ⟨u, a⟩
  | _ => .error (.sending (Http.shown u))

namespace Http.Network

/-- No reply redirects: a status that does so comes without a place to go. -/
def StaysPut (n : Network) : Prop :=
  ∀ i a, n.reply i = .answered a → isRedirect a.status = true → a.headers.lookup "location" = none

/-- All requests arrive, and no reply redirects. -/
structure IsPlain (n : Network) : Prop where
  /-- No request is lost on its way. -/
  arrives : ∀ i, n.reply i ≠ .lost
  /-- A status that redirects comes without a place to go. -/
  stays : ∀ i a, n.reply i = .answered a → isRedirect a.status = true →
    a.headers.lookup "location" = none

theorem IsPlain.later {n n' : Network} (h : n.IsPlain) (hlater : n.Later n') : n'.IsPlain := by
  constructor
  · intro i
    rw [hlater.reply]
    exact h.arrives i
  · intro i a ha
    rw [hlater.reply] at ha
    exact h.stays i a ha

/-- The network after some more requests that arrived. -/
def sent (n : Network) (qs : List Request) : Network :=
  { n with count := n.count + qs.length, arrived := n.arrived ++ qs }

@[simp] theorem sent_nil (n : Network) : n.sent [] = n := by
  simp [sent]

@[simp] theorem sent_sent (n : Network) (qs qs' : List Request) :
    (n.sent qs).sent qs' = n.sent (qs ++ qs') := by
  simp [sent, Nat.add_assoc]

@[simp] theorem reply_sent (n : Network) (qs : List Request) : (n.sent qs).reply = n.reply := rfl

@[simp] theorem count_sent (n : Network) (qs : List Request) :
    (n.sent qs).count = n.count + qs.length := rfl

variable {n : Network} {q : Request}

theorem exchange_of_arrives (h : n.reply n.count ≠ .lost) :
    n.exchange q = (n.reply n.count, n.sent [q]) := by
  unfold exchange
  split
  · next hlost => exact absurd hlost h
  · rfl

theorem send_of_not_target (htarget : isTarget q.url = false) :
    n.send q = (.error (.building (shown q.url)), n) := by
  have hdispatch : n.dispatch q = (.error (.building (shown q.url)), n) := by
    simp [dispatch, htarget]
  rw [send, sendFollowing, hdispatch]

/-- Any other request uses up one reply, and no second one follows where no reply redirects. -/
theorem send_of_staysPut (hstays : n.StaysPut) (hscheme : isWebScheme q.url.scheme = true)
    (htarget : isTarget q.url = true) :
    n.send q = ((n.reply n.count).outcome q.url, (n.exchange q).2) := by
  have hfst : (n.exchange q).1 = n.reply n.count := fst_exchange n q
  have hdispatch : n.dispatch q = ((n.reply n.count).outcome q.url, (n.exchange q).2) := by
    simp only [dispatch, htarget, hscheme]
    obtain ⟨reply, n', hexchange⟩ : ∃ reply n', n.exchange q = (reply, n') := ⟨_, _, rfl⟩
    rw [hexchange] at hfst ⊢
    rw [← hfst]
    cases reply <;> simp [Reply.outcome]
  -- The first response is the last one, as it names no place to go.
  rw [send, sendFollowing, hdispatch]
  cases hreply : n.reply n.count with
  | answered a =>
    have hnext : next? q ⟨q.url, a⟩ = none := by
      cases hredirect : isRedirect a.status with
      | false => simp [next?, Response.status, hredirect]
      | true =>
        have hplace := hstays _ a hreply hredirect
        simp [next?, Response.status, Response.header?, hredirect, hplace]
    simp [Reply.outcome, hnext]
  | _ => rfl

/-- On a plain network the request arrives. -/
theorem send_of_target (hplain : n.IsPlain) (hscheme : isWebScheme q.url.scheme = true)
    (htarget : isTarget q.url = true) :
    n.send q = ((n.reply n.count).outcome q.url, n.sent [q]) := by
  rw [send_of_staysPut hplain.stays hscheme htarget, exchange_of_arrives (hplain.arrives n.count)]

end Http.Network

/-! ### What replies tell -/

/-- The text of a body, if there is one and all of it arrives. -/
theorem Http.Response.toOption_text (res : Http.Response) :
    res.text.toOption =
      if isBodiless res.status then some ""
      else if res.answer.truncated then none
      else some ((charset (res.header? "content-type")).decode res.answer.body) := by
  unfold text
  split
  · rfl
  · split <;> rfl

namespace Remote

/-- The success that a response tells, if it does. -/
def success? (res : Http.Response) : Option Success :=
  if Http.isSuccess res.status then
    res.text.toOption.bind fun body =>
      (Json.Document.read (Success.ofOutline Json.Outline.nestingLimit) body).toOption
  else none

/-- The place that an answer comes from only shows in failures. -/
theorem success?_congr (u u' : Url) (a : Http.Answer) : success? ⟨u, a⟩ = success? ⟨u', a⟩ := by
  have htext : (Http.Response.text ⟨u, a⟩).toOption = (Http.Response.text ⟨u', a⟩).toOption := by
    rw [Http.Response.toOption_text, Http.Response.toOption_text]
    rfl
  unfold success?
  rw [htext]
  rfl

/-- A response with success tells its success, or nothing that can be read. -/
theorem toldSuccess_eq (key : String) {res : Http.Response}
    (h : Http.isSuccess res.status = true) :
    (toldSuccess key res).toOption = (success? res).map Success.resolution := by
  simp only [success?, h, if_true]
  unfold toldSuccess
  cases res.text with
  | error f => rfl
  | ok body =>
    cases hread : Json.Document.read (Success.ofOutline Json.Outline.nestingLimit) body <;>
      simp [Except.toOption, hread]

end Remote

/-- The reply tells a success. -/
def Http.Reply.Tells (reply : Http.Reply) (s : Success) : Prop :=
  ∃ a, reply = .answered a ∧ ∀ u, Remote.success? ⟨u, a⟩ = some s

theorem Http.Reply.tells_answered {a : Http.Answer} {s : Success} {u : Url} :
    (Http.Reply.answered a).Tells s ↔ Remote.success? ⟨u, a⟩ = some s := by
  constructor
  · rintro ⟨a', ha, htells⟩
    obtain rfl : a = a' := by simpa using ha
    exact htells u
  · intro hs
    exact ⟨a, rfl, fun u' => by rw [Remote.success?_congr u' u, hs]⟩

theorem Http.Reply.Tells.unique {reply : Http.Reply} {s s' : Success} (h : reply.Tells s)
    (h' : reply.Tells s') : s = s' := by
  obtain ⟨a, rfl, hs⟩ := h
  obtain ⟨a', ha, hs'⟩ := h'
  obtain rfl : a = a' := by simpa using ha
  exact Option.some.inj ((hs { scheme := "" }).symm.trans (hs' _))

theorem Http.Reply.not_tells {reply : Http.Reply} (h : ∀ a, reply ≠ .answered a) (s : Success) :
    ¬ reply.Tells s := by
  rintro ⟨a, ha, -⟩
  exact h a ha

namespace Remote

/-! ### Evaluations -/

/-- A provider that sends one request for each evaluation. -/
structure AsksOnce (r : Remote) : Prop where
  /-- It asks for one flag at a time. -/
  mode : r.mode = .single
  /-- It does not ask again. -/
  maxRetries : r.maxRetries = 0
  /-- Its scheme is one for requests. -/
  scheme : Http.Network.isWebScheme r.base.scheme = true

/-- The request that an evaluation of a flag sends. -/
def flagRequest (r : Remote) (c : Context) (key : String) : Http.Request :=
  r.request (r.endpoint (some key)) c none

/-- An evaluation passes the wire: its place can be named, and the reply to its request tells a
success. -/
def Passes (r : Remote) (c : Context) (key : String) (reply : Http.Reply) (s : Success) : Prop :=
  Http.Network.isTarget (r.flagRequest c key).url = true ∧ reply.Tells s

variable {r : Remote} {st : State} {w : World}

/-- Without a pause, a provider that asks once sends its request right after a look at the clock. -/
theorem post_of_asksOnce (h : r.AsksOnce) (hpause : st.pause = none) (u : Url) (c : Context) :
    r.post st.pause u c none w =
      ((w.network.send (r.request u c none)).1.mapError .http,
        { w.now.2 with network := (w.network.send (r.request u c none)).2 }) := by
  rw [post_eq, hpause]
  simp only [Pause.pausedUntil?, Option.filter_none, h.maxRetries]
  rfl

variable {key : String} {c : Context}

theorem resolveSingle_of_error {e : FlagError}
    (h : (r.post st.pause (r.endpoint (some key)) c none w).1 = .error e) :
    (r.resolveSingle st key c w).result = .error e := by
  rw [resolveSingle_eq, h]

/-- A response gives the flag the value that it tells, or none. -/
theorem resolveSingle_of_response {res : Http.Response}
    (h : (r.post st.pause (r.endpoint (some key)) c none w).1 = .ok res) :
    (∃ s, success? res = some s ∧ (r.resolveSingle st key c w).result = .ok s.resolution ∧
      (r.resolveSingle st key c w).state = st) ∨
    (success? res = none ∧ ∃ e, (r.resolveSingle st key c w).result = .error e) := by
  rw [resolveSingle_eq, h]
  dsimp only
  cases hsuccess : Http.isSuccess res.status with
  | false =>
    rw [if_neg Bool.false_ne_true]
    exact .inr ⟨by simp [success?, hsuccess], exists_error_of_refused _ _ _ _⟩
  | true =>
    rw [if_pos rfl]
    have htold := toldSuccess_eq key hsuccess
    cases hs : success? res with
    | some s =>
      rw [hs] at htold
      refine .inl ⟨s, rfl, ?_, rfl⟩
      cases hr : toldSuccess key res with
      | error e => simp [hr, Except.toOption] at htold
      | ok resolution =>
        obtain rfl : resolution = s.resolution := by simpa [hr, Except.toOption] using htold
        rfl
    | none =>
      rw [hs] at htold
      refine .inr ⟨rfl, ?_⟩
      cases hr : toldSuccess key res with
      | error e => exact ⟨e, rfl⟩
      | ok resolution => simp [hr, Except.toOption] at htold

/-- **An evaluation on the wire.**  Without a pause, the provider sends one request if its place can be
named, and otherwise none.  The flag has the value that the reply tells, and then the provider stays
as it is; if the reply tells none, or there is none, the evaluation fails. -/
theorem resolveSingle_spec (h : r.AsksOnce) (hplain : w.network.IsPlain) (hpause : st.pause = none)
    (key : String) (c : Context) :
    let o := r.resolveSingle st key c w
    let q := r.flagRequest c key
    o.world.network = (if Http.Network.isTarget q.url then w.network.sent [q] else w.network) ∧
    ((∃ s, r.Passes c key (w.network.reply w.network.count) s ∧
        o.result = .ok s.resolution ∧ o.state = st) ∨
      ((∀ s, ¬ r.Passes c key (w.network.reply w.network.count) s) ∧ ∃ e, o.result = .error e)) := by
  intro o q
  have hpost := post_of_asksOnce (w := w) h hpause (r.endpoint (some key)) c
  have hnetwork : o.world.network = (w.network.send q).2 := by
    rw [network_resolveSingle, hpost]
    rfl
  -- A request that fails makes the evaluation fail.
  have hfails : ∀ f, (w.network.send q).1 = .error f → ∃ e, o.result = .error e := by
    intro f hf
    refine ⟨.http f, resolveSingle_of_error ?_⟩
    rw [hpost]
    exact congrArg (Except.mapError FlagError.http) hf
  cases htarget : Http.Network.isTarget q.url with
  | false =>
    have hsend := Http.Network.send_of_not_target (n := w.network) htarget
    refine ⟨by rw [hnetwork, hsend]; rfl, .inr ⟨?_, hfails _ (by rw [hsend])⟩⟩
    rintro s ⟨hnamed, -⟩
    rw [htarget] at hnamed
    exact Bool.false_ne_true hnamed
  | true =>
    have hsend := Http.Network.send_of_target hplain h.scheme htarget
    refine ⟨by rw [hnetwork, hsend]; rfl, ?_⟩
    cases hreply : w.network.reply w.network.count with
    | answered a =>
      rw [hreply] at hsend
      have hres : (r.post st.pause (r.endpoint (some key)) c none w).1 = .ok ⟨q.url, a⟩ := by
        rw [hpost]
        exact congrArg (·.1.mapError FlagError.http) hsend
      rcases resolveSingle_of_response hres with ⟨s, hs, hresult, hstate⟩ | ⟨hnone, herror⟩
      · exact .inl ⟨s, ⟨htarget, Http.Reply.tells_answered.mpr hs⟩, hresult, hstate⟩
      · refine .inr ⟨?_, herror⟩
        rintro s ⟨-, htells⟩
        rw [Http.Reply.tells_answered.mp htells] at hnone
        simp at hnone
    | _ =>
      rw [hreply] at hsend
      refine .inr ⟨?_, hfails _ (by rw [hsend]; rfl)⟩
      rintro s ⟨-, htells⟩
      exact Http.Reply.not_tells (by simp) s htells

end Remote

end RemoteFlags
