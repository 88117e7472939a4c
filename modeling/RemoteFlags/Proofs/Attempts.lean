import RemoteFlags.Proofs.Bulk.Refetch
import RemoteFlags.Proofs.Fields
import RemoteFlags.Proofs.Single

/-!
# Attempts

A request that gets no response is sent again, as often as the provider is set up to.  The first
response ends the attempts, whatever its status is and whether or not its body arrives.  If there is
none, the failure of the last attempt is told.

## Main definitions

* `World.resent q k w` — the world after a request was sent some times in a row.
* `World.attempt q w i` — what comes of the attempt with a number, counted from zero.
* `World.FailsBefore q w j` — the attempts before that number fail.
* `Remote.Concludes asked o` — an operation sends nothing more once the server was asked.

## Main results

* `Remote.attempts_of_response`, `Remote.attempts_of_failsBefore` — the attempts when one of them gets a
  response, and when none does.
* `Remote.attempts_of_post` — **what the attempts of a request come to.**
-/

namespace RemoteFlags

open Http (Network)
open Http.Network (Hears)

/-! ### A request in a row -/

namespace World

/-- The world after a request was sent some times in a row. -/
def resent (q : Http.Request) : Nat → World → World
  | 0, w => w
  | k + 1, w => resent q k (w.send q).2

/-- What comes of the attempt with a number, after all attempts before it. -/
def attempt (q : Http.Request) (w : World) (i : Nat) : Except Http.Fault Http.Response :=
  ((w.resent q i).send q).1

variable (q : Http.Request) (w : World)

theorem resent_succ (k : Nat) : w.resent q (k + 1) = (w.send q).2.resent q k := rfl

/-- The attempts before a number fail. -/
def FailsBefore (j : Nat) : Prop := ∀ i < j, ∃ f, w.attempt q i = .error f

variable {q w}

theorem failsBefore_zero : w.FailsBefore q 0 := fun _ h => absurd h (Nat.not_lt_zero _)

theorem failsBefore_succ {j : Nat} :
    w.FailsBefore q (j + 1) ↔ (∃ f, (w.send q).1 = .error f) ∧ (w.send q).2.FailsBefore q j := by
  constructor
  · intro h
    exact ⟨h 0 (Nat.succ_pos j), fun i hi => h (i + 1) (Nat.succ_lt_succ hi)⟩
  · rintro ⟨hfirst, hrest⟩ i hi
    cases i with
    | zero => exact hfirst
    | succ i => exact hrest i (Nat.lt_of_succ_lt_succ hi)

theorem FailsBefore.concat {j : Nat} {f : Http.Fault} (h : w.FailsBefore q j)
    (hj : w.attempt q j = .error f) : w.FailsBefore q (j + 1) := by
  intro i hi
  rcases Nat.lt_succ_iff_lt_or_eq.mp hi with hlt | rfl
  · exact h i hlt
  · exact ⟨f, hj⟩

/-- Up to any number the attempts fail, or one of them is the first to get a response. -/
theorem failsBefore_or (q : Http.Request) (w : World) (m : Nat) :
    w.FailsBefore q m ∨ ∃ j < m, w.FailsBefore q j ∧ ∃ res, w.attempt q j = .ok res := by
  induction m with
  | zero => exact .inl failsBefore_zero
  | succ m ih =>
    rcases ih with hfails | ⟨j, hj, hfirst⟩
    · cases hm : w.attempt q m with
      | error f => exact .inl (hfails.concat hm)
      | ok res => exact .inr ⟨m, Nat.lt_succ_self m, hfails, res, hm⟩
    · exact .inr ⟨j, Nat.lt_succ_of_lt hj, hfirst⟩

end World

/-! ### The loop -/

namespace Remote

variable {q : Http.Request} {w : World} {retries : Nat}

/-- The first response ends the attempts. -/
theorem attempts_of_response {j : Nat} {res : Http.Response} (hfails : w.FailsBefore q j)
    (hres : w.attempt q j = .ok res) (hj : j ≤ retries) :
    attempts retries w q = (.ok res, w.resent q (j + 1)) := by
  -- Induction on the attempts that fail, each of which uses up one that is left.
  induction j generalizing w retries with
  | zero =>
    have hsend : (w.send q).1 = .ok res := hres
    cases retries with
    | zero => exact Prod.ext hsend rfl
    | succ retries => rw [attempts_succ, hsend]; rfl
  | succ j ih =>
    obtain ⟨⟨f, hfirst⟩, hrest⟩ := World.failsBefore_succ.mp hfails
    cases retries with
    | zero => exact absurd hj (Nat.not_succ_le_zero j)
    | succ retries =>
      rw [attempts_succ, hfirst]
      exact ih hrest hres (Nat.le_of_succ_le_succ hj)

/-- Without a response, all attempts are made, and the last one is told. -/
theorem attempts_of_failsBefore (hfails : w.FailsBefore q retries) :
    attempts retries w q = (w.attempt q retries, w.resent q (retries + 1)) := by
  induction retries generalizing w with
  | zero => rfl
  | succ retries ih =>
    obtain ⟨⟨f, hfirst⟩, hrest⟩ := World.failsBefore_succ.mp hfails
    rw [attempts_succ, hfirst]
    exact ih hrest

/-- Whatever comes of them, the attempts are some in a row. -/
theorem exists_attempts (retries : Nat) (w : World) (q : Http.Request) :
    ∃ n ≤ retries + 1, (attempts retries w q).2 = w.resent q n := by
  rcases World.failsBefore_or q w retries with hfails | ⟨j, hj, hfails, res, hres⟩
  · exact ⟨retries + 1, Nat.le_refl _, by rw [attempts_of_failsBefore hfails]⟩
  · exact ⟨j + 1, by omega, by rw [attempts_of_response hfails hres (Nat.le_of_lt hj)]⟩

end Remote

/-! ### Attempts on the wire -/

namespace World

variable {q : Http.Request} {w : World}

/-- What a request in a row does to the network only depends on the network. -/
theorem network_resent_congr {w' : World} (h : w.network = w'.network) (k : Nat) :
    (w.resent q k).network = (w'.resent q k).network := by
  induction k generalizing w w' with
  | zero => exact h
  | succ k ih => exact ih (by rw [network_send, network_send, h])

theorem reply_resent (q : Http.Request) (w : World) (k : Nat) :
    (w.resent q k).network.reply = w.network.reply := by
  induction k generalizing w with
  | zero => rfl
  | succ k ih => rw [resent_succ, ih, (w.later_send q).network.reply]

/-- Where no reply redirects, each attempt uses up one reply, and only the request itself arrives. -/
theorem resent_of_staysPut (hstays : w.network.StaysPut)
    (hscheme : Network.isWebScheme q.url.scheme = true) (htarget : Network.isTarget q.url = true)
    (k : Nat) :
    (w.resent q k).network.count = w.network.count + k ∧
      Hears (· = q) w.network (w.resent q k).network := by
  induction k generalizing w with
  | zero => exact ⟨rfl, Hears.refl _⟩
  | succ k ih =>
    have hnetwork : (w.send q).2.network = (w.network.exchange q).2 := by
      rw [network_send, Network.send_of_staysPut hstays hscheme htarget]
    have hnext : (w.send q).2.network.StaysPut := by
      rw [hnetwork, Network.StaysPut, Network.reply_exchange]
      exact hstays
    obtain ⟨hcount, hhears⟩ := ih hnext
    rw [hnetwork] at hcount hhears
    rw [resent_succ]
    constructor
    · rw [hcount, Network.count_exchange]
      omega
    · have hfirst : Hears (· = q) w.network (w.network.exchange q).2 :=
        Network.hears_exchange w.network rfl
      exact hfirst.trans hhears

/-- An attempt there is what becomes of its reply. -/
theorem attempt_of_staysPut (hstays : w.network.StaysPut)
    (hscheme : Network.isWebScheme q.url.scheme = true) (htarget : Network.isTarget q.url = true)
    (i : Nat) :
    w.attempt q i = (w.network.reply (w.network.count + i)).outcome q.url := by
  have hreply := reply_resent q w i
  have hstill : (w.resent q i).network.StaysPut := by
    rw [Network.StaysPut, hreply]
    exact hstays
  obtain ⟨hcount, -⟩ := resent_of_staysPut hstays hscheme htarget i
  rw [attempt, fst_send, Network.send_of_staysPut hstill hscheme htarget, hreply, hcount]

/-- On a plain network all attempts arrive. -/
theorem network_resent_of_isPlain (hplain : w.network.IsPlain)
    (hscheme : Network.isWebScheme q.url.scheme = true) (htarget : Network.isTarget q.url = true)
    (k : Nat) :
    (w.resent q k).network = w.network.sent (List.replicate k q) := by
  induction k generalizing w with
  | zero => exact (Network.sent_nil _).symm
  | succ k ih =>
    have hnetwork : (w.send q).2.network = w.network.sent [q] := by
      rw [network_send, Network.send_of_target hplain hscheme htarget]
    have hnext : (w.send q).2.network.IsPlain := hplain.later (w.later_send q).network
    rw [resent_succ, ih hnext, hnetwork, Network.sent_sent]
    rfl

end World

/-! ### Responses -/

namespace Remote

/-- An operation concludes an exchange: it sends nothing more, and fails when a success comes without
its body. -/
structure Concludes {α : Type} (asked : Except FlagError Http.Response × World) (o : Outcome α) :
    Prop where
  /-- Nothing more is sent. -/
  network : o.world.network = asked.2.network
  /-- A body that does not arrive is told. -/
  bodiless : ∀ res f, asked.1 = .ok res → Http.isSuccess res.status = true → res.text = .error f →
    o.result = .error (.http f)

theorem concludes_resolveSingle (r : Remote) (st : State) (key : String) (c : Context) (w : World) :
    Concludes (r.post st.pause (r.endpoint (some key)) c none w) (r.resolveSingle st key c w) where
  network := network_resolveSingle r st key c w
  bodiless res f hres hsuccess hbody := by
    rw [resolveSingle_eq, hres]
    dsimp only
    rw [if_pos hsuccess, toldSuccess, hbody]

theorem concludes_refetch (r : Remote) (st : State) (c : Context) (w : World) :
    Concludes (r.bulkPost st c w) (r.refetch st c w) where
  network := by
    rw [refetch_eq]
    cases (r.bulkPost st c w).1 with
    | error e => rfl
    | ok res => exact network_takeBulk _ _ _ _ _
  bodiless res f hres hsuccess hbody := by
    have hstatus : res.status ≠ 304 := by
      intro h
      rw [h] at hsuccess
      exact absurd hsuccess (by decide)
    rw [refetch_eq, hres]
    dsimp only
    rw [takeBulk, if_neg hstatus, if_pos hsuccess, hbody]

/-! ### Asking the server -/

section

variable {r : Remote} {pause : Option Instant} {u : Url} {c : Context} {mark : Option String}
  {w : World}

/-- Without a pause, asking the server looks at the clock and makes the attempts. -/
theorem post_of_unpaused (hpause : Pause.pausedUntil? pause w.now.1 = none) :
    r.post pause u c mark w =
      ((attempts r.maxRetries w.now.2 (r.request u c mark)).1.mapError .http,
        (attempts r.maxRetries w.now.2 (r.request u c mark)).2) := by
  rw [post_eq, hpause]

theorem post_of_response {j : Nat} {res : Http.Response}
    (hpause : Pause.pausedUntil? pause w.now.1 = none)
    (hfails : w.now.2.FailsBefore (r.request u c mark) j)
    (hres : w.now.2.attempt (r.request u c mark) j = .ok res) (hj : j ≤ r.maxRetries) :
    r.post pause u c mark w = (.ok res, w.now.2.resent (r.request u c mark) (j + 1)) := by
  rw [post_of_unpaused hpause, attempts_of_response hfails hres hj]
  rfl

theorem post_of_failsBefore (hpause : Pause.pausedUntil? pause w.now.1 = none)
    (hfails : w.now.2.FailsBefore (r.request u c mark) (r.maxRetries + 1)) :
    ∃ f, w.now.2.attempt (r.request u c mark) r.maxRetries = .error f ∧
      r.post pause u c mark w =
        (.error (.http f), w.now.2.resent (r.request u c mark) (r.maxRetries + 1)) := by
  obtain ⟨f, hlast⟩ := hfails r.maxRetries (Nat.lt_succ_self _)
  refine ⟨f, hlast, ?_⟩
  have hbefore : w.now.2.FailsBefore (r.request u c mark) r.maxRetries :=
    fun i hi => hfails i (Nat.lt_succ_of_lt hi)
  rw [post_of_unpaused hpause, attempts_of_failsBefore hbefore, hlast]
  rfl

/-- **What the attempts of a request come to.**  Without a pause, the first attempt that gets a response
is the last one, if it is one of those that the provider may make; otherwise the provider makes all of
these, and tells how the last one failed.  All attempts send one and the same request; where no reply
redirects, each of them gets the next reply, so that any answer ends them, and nothing else arrives.
Evaluations send nothing more once there is a response. -/
theorem attempts_of_post (hpause : Pause.pausedUntil? pause w.now.1 = none) :
    let q := r.request u c mark
    let start := w.now.2
    let asked := r.post pause u c mark w
    (∀ j, start.FailsBefore q j →
      (∀ res, start.attempt q j = .ok res → j ≤ r.maxRetries →
        asked = (.ok res, start.resent q (j + 1))) ∧
      (r.maxRetries < j → ∃ f, start.attempt q r.maxRetries = .error f ∧
        asked = (.error (.http f), start.resent q (r.maxRetries + 1)))) ∧
    (∃ j, start.FailsBefore q j ∧
      (r.maxRetries < j ∨ j ≤ r.maxRetries ∧ ∃ res, start.attempt q j = .ok res)) ∧
    (q.method = .post ∧ q.url = u.withoutUserInfo ∧ q.headers = r.requestFields u mark ∧
      q.body = c.requestBody ∧ r.Carries mark q) ∧
    (w.network.StaysPut → Network.isWebScheme q.url.scheme = true →
      Network.isTarget q.url = true → ∀ k,
      start.attempt q k = (w.network.reply (w.network.count + k)).outcome q.url ∧
      (start.resent q k).network.count = w.network.count + k ∧
      Hears (· = q) w.network (start.resent q k).network ∧
      (w.network.IsPlain → (start.resent q k).network = w.network.sent (List.replicate k q))) ∧
    (∀ st key v, Concludes (r.post st.pause (r.endpoint (some key)) c none v)
      (r.resolveSingle st key c v)) ∧
    ∀ st v, Concludes (r.bulkPost st c v) (r.refetch st c v) := by
  intro q start asked
  refine ⟨fun j hfails => ⟨fun res hres hj => post_of_response hpause hfails hres hj, fun hj => ?_⟩,
    ?_, ⟨rfl, rfl, rfl, rfl, carries_request r u c mark⟩, fun hstays hscheme htarget k => ?_,
    fun st key v => concludes_resolveSingle r st key c v, fun st v => concludes_refetch r st c v⟩
  · exact post_of_failsBefore hpause fun i hi => hfails i (Nat.lt_of_lt_of_le hi hj)
  · rcases World.failsBefore_or q start (r.maxRetries + 1) with hfails | ⟨j, hj, hfails, hres⟩
    · exact ⟨r.maxRetries + 1, hfails, .inl (Nat.lt_succ_self _)⟩
    · exact ⟨j, hfails, .inr ⟨Nat.le_of_lt_succ hj, hres⟩⟩
  · -- Looking at the clock does not touch the network.
    have hnetwork : start.network = w.network := World.network_now w
    rw [← hnetwork] at hstays ⊢
    obtain ⟨hcount, hhears⟩ := World.resent_of_staysPut hstays hscheme htarget k
    exact ⟨World.attempt_of_staysPut hstays hscheme htarget k, hcount, hhears,
      fun hplain => World.network_resent_of_isPlain hplain hscheme htarget k⟩

/-! ### A server that answers late -/

/-- A provider that asks up to three times. -/
def patient : Remote where
  base := { scheme := "http", host := some "flags.test", segments := [""] }
  headers := ∅
  mode := .single
  lifetime := 60
  maxRetries := 2
  retryBackoff := 1000
  timeout := 10000

/-- A server that answers the third request, and breaks its answer off. -/
def late : Nat → Http.Reply
  | 0 => .dropped
  | 1 => .hung
  | _ => .answered { status := 200, body := Text.utf8 "\x7b", truncated := true }

/-- The world with that server. -/
def lateWorld : World := ⟨{ reply := late }, { reading := fun n => ⟨n, 0⟩ }⟩

theorem isPlain_late : lateWorld.network.IsPlain where
  arrives i := by
    match i with
    | 0 => exact nofun
    | 1 => exact nofun
    | _ + 2 => exact nofun
  stays i a h _ := by
    match i with
    | 0 => exact absurd h nofun
    | 1 => exact absurd h nofun
    | _ + 2 =>
      obtain rfl := Http.Reply.answered.inj h
      rfl

/-- Three requests arrive, all alike, and the missing body is no reason for a fourth one. -/
theorem three_attempts :
    let q := patient.request (patient.endpoint (some "a")) ∅ none
    let o := patient.resolveSingle (.initial ⟨0, 0⟩) "a" ∅ lateWorld
    o.world.network.arrived = [q, q, q] ∧
      o.result = .error (.http (.decoding (Http.shown q.url))) := by
  intro q o
  have hscheme : Network.isWebScheme q.url.scheme = true := rfl
  have htarget : Network.isTarget q.url = true := by decide +kernel
  obtain ⟨hposts, -, -, hwire, hconcludes, -⟩ :=
    @attempts_of_post patient none (patient.endpoint (some "a")) ∅ none lateWorld rfl
  have hattempt : ∀ k, lateWorld.now.2.attempt q k = (late (0 + k)).outcome q.url :=
    fun k => (hwire isPlain_late.stays hscheme htarget k).1
  have hfails : lateWorld.now.2.FailsBefore q 2 := by
    intro i hi
    match i, hi with
    | 0, _ => exact ⟨_, hattempt 0⟩
    | 1, _ => exact ⟨_, hattempt 1⟩
  have hasked := (hposts 2 hfails).1 _ (hattempt 2) (Nat.le_refl 2)
  have harrived := (hwire isPlain_late.stays hscheme htarget 3).2.2.2 isPlain_late
  obtain ⟨hnetwork, hbodiless⟩ := hconcludes (.initial ⟨0, 0⟩) "a" lateWorld
  constructor
  · have hlast : o.world.network = lateWorld.network.sent (List.replicate 3 q) := by
      rw [hnetwork, ← harrived]
      exact congrArg (·.2.network) hasked
    rw [hlast]
    rfl
  · exact hbodiless _ _ (congrArg (·.1) hasked) rfl rfl

end

end Remote
end RemoteFlags
