import RemoteFlags.Result
import RemoteFlags.Provider.Remote

/-!
# What an exchange does to the world

Reading the clock and sending requests move the world forward: the readings and the replies that it
holds stay, and fewer of them lie ahead.  A request that gets a response has used up a reply of the
network, and that reply is the response.

## Main definitions

* `Network.Later n n'`, `World.Later w w'` — what comes after a network and after a world.

## Main results

* `Network.answered_of_send` — every response is a reply that the network held.
* `World.later_send`, `Remote.later_post` — requests move the world forward.
* `Remote.clock_post` — asking the server reads the clock once.
* `Remote.resolveSingle_eq` — an evaluation by a request of its own, as a match on what comes back.
-/

namespace RemoteFlags

/-! ### The network -/

namespace Http.Network

/-- A network after some more requests: its replies are the same, and no fewer of them are used up. -/
structure Later (n n' : Network) : Prop where
  /-- The replies stay. -/
  reply : n'.reply = n.reply
  /-- No request is taken back. -/
  count : n.count ≤ n'.count

theorem Later.refl (n : Network) : Later n n := ⟨rfl, Nat.le_refl _⟩

theorem Later.trans {n n' n'' : Network} (h : Later n n') (h' : Later n' n'') : Later n n'' :=
  ⟨h'.reply.trans h.reply, Nat.le_trans h.count h'.count⟩

theorem fst_exchange (n : Network) (q : Request) : (n.exchange q).1 = n.reply n.count := by
  unfold exchange
  split
  · next h => exact h.symm
  · rfl

@[simp] theorem reply_exchange (n : Network) (q : Request) : (n.exchange q).2.reply = n.reply := by
  unfold exchange
  split <;> rfl

@[simp] theorem count_exchange (n : Network) (q : Request) :
    (n.exchange q).2.count = n.count + 1 := by
  unfold exchange
  split <;> rfl

theorem later_exchange (n : Network) (q : Request) : Later n (n.exchange q).2 :=
  ⟨reply_exchange n q, by rw [count_exchange]; exact Nat.le_succ _⟩

theorem later_dispatch (n : Network) (q : Request) : Later n (n.dispatch q).2 := by
  have hexchange := later_exchange n q
  unfold dispatch
  split
  · exact Later.refl n
  split <;> next h => rw [h] at hexchange; exact hexchange

theorem answered_of_dispatch {n : Network} {q : Request} {res : Response}
    (h : (n.dispatch q).1 = .ok res) :
    n.reply n.count = .answered res.answer ∧ (n.dispatch q).2.count = n.count + 1 := by
  have hreply := fst_exchange n q
  have hcount := count_exchange n q
  unfold dispatch at h ⊢
  split at h
  · simp at h
  split at h
  · next ha =>
    rw [ha] at hreply hcount
    obtain rfl : Response.mk q.url _ = res := by simpa using h
    simp_all
  · simp at h

theorem url_of_dispatch {n : Network} {q : Request} {res : Response}
    (h : (n.dispatch q).1 = .ok res) : res.url = q.url := by
  unfold dispatch at h
  split at h
  · simp at h
  split at h
  · obtain rfl := Except.ok.inj h
    rfl
  · simp at h

/-- Sending either ends with the first exchange, or goes on where that one redirects to. -/
theorem sendFollowing_cases (left : Nat) (n : Network) (q : Request) :
    (∃ result, sendFollowing left n q = (result, (n.dispatch q).2) ∧
      ∀ res, result = .ok res → (n.dispatch q).1 = .ok res ∧ next? q res = none) ∨
    ∃ left' res q', left = left' + 1 ∧ (n.dispatch q).1 = .ok res ∧
      next? q res = some (.ok q') ∧
      sendFollowing left n q = sendFollowing left' (n.dispatch q).2 q' := by
  obtain ⟨result, n', hd⟩ : ∃ result n', n.dispatch q = (result, n') := ⟨_, _, rfl⟩
  rw [sendFollowing, hd]
  cases result with
  | error f => exact .inl ⟨.error f, rfl, by simp⟩
  | ok res =>
    cases hnext : next? q res with
    | none => exact .inl ⟨.ok res, by simp [hnext], by simp [hnext]⟩
    | some next =>
      cases left with
      | zero => exact .inl ⟨_, by simp [hnext]; rfl, by simp⟩
      | succ left =>
        cases next with
        | error f => exact .inl ⟨.error f, by simp [hnext], by simp⟩
        | ok q' => exact .inr ⟨left, res, q', rfl, rfl, hnext, by simp [hnext]⟩

theorem later_sendFollowing (left : Nat) (n : Network) (q : Request) :
    Later n (sendFollowing left n q).2 := by
  induction left generalizing n q with
  | zero =>
    rcases sendFollowing_cases 0 n q with ⟨result, h, -⟩ | ⟨left', _, _, h, -⟩
    · rw [h]; exact later_dispatch n q
    · simp at h
  | succ left ih =>
    rcases sendFollowing_cases (left + 1) n q with ⟨result, h, -⟩ | ⟨left', res, q', hl, -, -, h⟩
    · rw [h]; exact later_dispatch n q
    · obtain rfl : left = left' := by omega
      rw [h]
      exact (later_dispatch n q).trans (ih _ q')

/-- A response, whether redirected or not, is a reply that the network held. -/
theorem answered_of_sendFollowing {left : Nat} {n : Network} {q : Request} {res : Response}
    (h : (sendFollowing left n q).1 = .ok res) :
    ∃ i, n.count ≤ i ∧ i < (sendFollowing left n q).2.count ∧
      n.reply i = .answered res.answer := by
  -- Induction on the redirections that may still follow; the replies stay, so the one that ends the
  -- chain is a reply of the network at its start.
  induction left generalizing n q with
  | zero =>
    rcases sendFollowing_cases 0 n q with ⟨result, hs, hd⟩ | ⟨left', _, _, hl, -⟩
    · rw [hs] at h ⊢
      obtain ⟨hreply, hcount⟩ := answered_of_dispatch (hd res h).1
      exact ⟨n.count, Nat.le_refl _, by rw [hcount]; exact Nat.lt_succ_self _, hreply⟩
    · simp at hl
  | succ left ih =>
    rcases sendFollowing_cases (left + 1) n q with ⟨result, hs, hd⟩ | ⟨left', _, q', hl, -, -, hs⟩
    · rw [hs] at h ⊢
      obtain ⟨hreply, hcount⟩ := answered_of_dispatch (hd res h).1
      exact ⟨n.count, Nat.le_refl _, by rw [hcount]; exact Nat.lt_succ_self _, hreply⟩
    · obtain rfl : left = left' := by omega
      rw [hs] at h ⊢
      have hlater := later_dispatch n q
      obtain ⟨i, hle, hlt, hreply⟩ := ih h
      exact ⟨i, Nat.le_trans hlater.count hle, hlt, by rw [← hlater.reply, hreply]⟩

theorem later_send (n : Network) (q : Request) : Later n (n.send q).2 :=
  later_sendFollowing maxRedirects n q

/-- Every response is a reply that the network held, and it is used up. -/
theorem answered_of_send {n : Network} {q : Request} {res : Response}
    (h : (n.send q).1 = .ok res) :
    ∃ i, n.count ≤ i ∧ i < (n.send q).2.count ∧ n.reply i = .answered res.answer :=
  answered_of_sendFollowing h

end Http.Network

/-! ### The world -/

namespace World

/-- A world after some more readings and requests. -/
structure Later (w w' : World) : Prop where
  /-- The network went on. -/
  network : w.network.Later w'.network
  /-- The readings stay. -/
  reading : w'.clock.reading = w.clock.reading
  /-- No reading is taken back. -/
  taken : w.clock.taken ≤ w'.clock.taken

theorem Later.refl (w : World) : Later w w := ⟨.refl _, rfl, Nat.le_refl _⟩

theorem Later.trans {w w' w'' : World} (h : Later w w') (h' : Later w' w'') : Later w w'' :=
  ⟨h.network.trans h'.network, h'.reading.trans h.reading, Nat.le_trans h.taken h'.taken⟩

@[simp] theorem network_now (w : World) : w.now.2.network = w.network := rfl

@[simp] theorem reading_now (w : World) : w.now.2.clock.reading = w.clock.reading := rfl

@[simp] theorem taken_now (w : World) : w.now.2.clock.taken = w.clock.taken + 1 := rfl

theorem later_now (w : World) : Later w w.now.2 := ⟨.refl _, rfl, Nat.le_succ _⟩

@[simp] theorem fst_send (w : World) (q : Http.Request) : (w.send q).1 = (w.network.send q).1 := rfl

@[simp] theorem network_send (w : World) (q : Http.Request) :
    (w.send q).2.network = (w.network.send q).2 := rfl

@[simp] theorem clock_send (w : World) (q : Http.Request) : (w.send q).2.clock = w.clock := rfl

theorem later_send (w : World) (q : Http.Request) : Later w (w.send q).2 :=
  ⟨w.network.later_send q, rfl, Nat.le_refl _⟩

end World

/-! ### Requests of a provider -/

namespace Remote

open Http (Response)

/-- Sending once more: a response ends the attempts, a failure uses up one of them. -/
theorem attempts_succ (retries : Nat) (w : World) (q : Http.Request) :
    attempts (retries + 1) w q =
      match (w.send q).1 with
      | .ok res => (.ok res, (w.send q).2)
      | .error _ => attempts retries (w.send q).2 q := by
  rw [attempts]
  obtain ⟨result, w', h⟩ : ∃ result w', w.send q = (result, w') := ⟨_, _, rfl⟩
  rw [h]
  cases result <;> rfl

@[simp] theorem clock_attempts (retries : Nat) (w : World) (q : Http.Request) :
    (attempts retries w q).2.clock = w.clock := by
  induction retries generalizing w with
  | zero => rfl
  | succ retries ih =>
    rw [attempts_succ]
    cases (w.send q).1 with
    | ok res => rfl
    | error f => exact ih _

theorem later_attempts (retries : Nat) (w : World) (q : Http.Request) :
    w.Later (attempts retries w q).2 := by
  induction retries generalizing w with
  | zero => exact w.later_send q
  | succ retries ih =>
    rw [attempts_succ]
    cases (w.send q).1 with
    | ok res => exact w.later_send q
    | error f => exact (w.later_send q).trans (ih _)

theorem answered_of_attempts {retries : Nat} {w : World} {q : Http.Request} {res : Response}
    (h : (attempts retries w q).1 = .ok res) :
    ∃ i, w.network.count ≤ i ∧ i < (attempts retries w q).2.network.count ∧
      w.network.reply i = .answered res.answer := by
  induction retries generalizing w with
  | zero => exact Http.Network.answered_of_send h
  | succ retries ih =>
    rw [attempts_succ] at h ⊢
    cases hs : (w.send q).1 with
    | ok res' =>
      rw [hs] at h
      obtain rfl : res' = res := by simpa using h
      exact Http.Network.answered_of_send hs
    | error f =>
      rw [hs] at h
      have hlater := w.later_send q
      obtain ⟨i, hle, hlt, hreply⟩ := ih h
      exact ⟨i, Nat.le_trans hlater.network.count hle, hlt, by rw [← hlater.network.reply, hreply]⟩

/-- Asking the server: refused while a pause is on, and otherwise what the attempts bring. -/
theorem post_eq (r : Remote) (pause : Option Instant) (u : Url) (c : Context)
    (etag : Option String) (w : World) :
    r.post pause u c etag w =
      match Pause.pausedUntil? pause w.now.1 with
      | some t => (.error (.rateLimited t), w.now.2)
      | none =>
        ((attempts r.maxRetries w.now.2 (r.request u c etag)).1.mapError .http,
          (attempts r.maxRetries w.now.2 (r.request u c etag)).2) := by
  obtain ⟨now, w', hnow⟩ : ∃ now w', w.now = (now, w') := ⟨_, _, rfl⟩
  rw [post, hnow]
  cases hp : Pause.pausedUntil? pause now with
  | some t => simp [hp]
  | none =>
    obtain ⟨result, w'', ha⟩ : ∃ result w'',
        attempts r.maxRetries w' (r.request u c etag) = (result, w'') := ⟨_, _, rfl⟩
    simp only [hp, ha]
    cases result <;> rfl

variable {r : Remote} {pause : Option Instant} {u : Url} {c : Context} {etag : Option String}
  {w : World}

theorem clock_post : (r.post pause u c etag w).2.clock = w.now.2.clock := by
  rw [post_eq]
  cases Pause.pausedUntil? pause w.now.1 with
  | some t => rfl
  | none => exact clock_attempts _ _ _

theorem later_post : w.Later (r.post pause u c etag w).2 := by
  rw [post_eq]
  cases Pause.pausedUntil? pause w.now.1 with
  | some t => exact w.later_now
  | none => exact w.later_now.trans (later_attempts _ _ _)

theorem answered_of_post {res : Response} (h : (r.post pause u c etag w).1 = .ok res) :
    ∃ i, w.network.count ≤ i ∧ i < (r.post pause u c etag w).2.network.count ∧
      w.network.reply i = .answered res.answer := by
  rw [post_eq] at h ⊢
  cases hp : Pause.pausedUntil? pause w.now.1 with
  | some t => simp [hp] at h
  | none =>
    simp only [hp] at h ⊢
    exact answered_of_attempts (mapError_eq_ok_iff.mp h)

/-- Without a response, asking the server fails with a pause or with a fault of the exchange. -/
theorem error_of_post {e : FlagError} (h : (r.post pause u c etag w).1 = .error e) :
    (∃ t, e = .rateLimited t) ∨ ∃ f, e = .http f := by
  rw [post_eq] at h
  cases hp : Pause.pausedUntil? pause w.now.1 with
  | some t =>
    obtain rfl : FlagError.rateLimited t = e := by simpa [hp] using h
    exact .inl ⟨t, rfl⟩
  | none =>
    simp only [hp] at h
    obtain ⟨f, -, rfl⟩ := mapError_eq_error_iff.mp h
    exact .inr ⟨f, rfl⟩

/-! ### Answers without success, and single flags -/

section

variable {α : Type} (st : State) (key : Option String) (res : Response) (w : World)

theorem later_refused : w.Later (refused st key res w : Outcome α).world := by
  unfold refused
  split
  · exact w.later_now
  · exact .refl w

theorem network_refused : (refused st key res w : Outcome α).world.network = w.network := by
  unfold refused
  split <;> rfl

theorem cache_refused : (refused st key res w : Outcome α).state.cache = st.cache := by
  unfold refused
  split <;> rfl

theorem exists_error_of_refused : ∃ e, (refused st key res w : Outcome α).result = .error e := by
  unfold refused
  split <;> exact ⟨_, rfl⟩

end

theorem resolveSingle_eq (r : Remote) (st : State) (key : String) (c : Context) (w : World) :
    r.resolveSingle st key c w =
      match (r.post st.pause (r.endpoint (some key)) c none w).1 with
      | .error e => ⟨.error e, st, (r.post st.pause (r.endpoint (some key)) c none w).2⟩
      | .ok res =>
        if Http.isSuccess res.status then
          ⟨toldSuccess key res, st, (r.post st.pause (r.endpoint (some key)) c none w).2⟩
        else refused st (some key) res (r.post st.pause (r.endpoint (some key)) c none w).2 := by
  obtain ⟨result, w', hpost⟩ : ∃ result w',
      r.post st.pause (r.endpoint (some key)) c none w = (result, w') := ⟨_, _, rfl⟩
  rw [resolveSingle, hpost]
  cases result <;> rfl

theorem later_resolveSingle (r : Remote) (st : State) (key : String) (c : Context) (w : World) :
    (r.post st.pause (r.endpoint (some key)) c none w).2.Later
      (r.resolveSingle st key c w).world := by
  rw [resolveSingle_eq]
  cases (r.post st.pause (r.endpoint (some key)) c none w).1 with
  | error e => exact .refl _
  | ok res =>
    dsimp only
    split
    · exact .refl _
    · exact later_refused _ _ _ _

theorem network_resolveSingle (r : Remote) (st : State) (key : String) (c : Context) (w : World) :
    (r.resolveSingle st key c w).world.network =
      (r.post st.pause (r.endpoint (some key)) c none w).2.network := by
  rw [resolveSingle_eq]
  cases (r.post st.pause (r.endpoint (some key)) c none w).1 with
  | error e => rfl
  | ok res =>
    dsimp only
    split
    · rfl
    · exact network_refused _ _ _ _

end Remote

end RemoteFlags
