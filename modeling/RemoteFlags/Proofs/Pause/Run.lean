import RemoteFlags.Proofs.Bulk.Run
import RemoteFlags.Proofs.Pause.Contact

/-!
# Pauses along a run

A provider remembers the end of one pause only, and every new pause overwrites it.  Nothing is lost
thereby: no response comes while a pause is on, so when a new one begins the old one has ended.
Under a clock that does not go back, a call is therefore refused exactly when some earlier contact
asked for a pause that is still on, whatever flag, context or operation that contact was for.

## Main definitions

* `Run`, `Run.after` — runs of a provider in any mode, with the log of their contacts.
* `Run.Refused` — a call sends nothing and tells until when the pause is on.
* `Run.Inv` — the invariant of runs.

## Main results

* `Run.inv_after` — **the invariant**: the pause is the last one of the log, and all others ended
  before it began.
* `refused_iff_asked_for` — **which calls are refused, and until when.**
-/

namespace RemoteFlags
namespace Pause

open Bulk (Call)
open Remote (State Outcome Follows)

/-! ### Runs -/

/-- Where a run has come to. -/
structure Run where
  /-- The provider. -/
  state : State
  /-- The world. -/
  world : World
  /-- The contacts that were made, the newest one first. -/
  log : List Contact

/-- A contact that a provider made in a world, or later. -/
def Contact.MadeBy (r : Remote) (w : World) (e : Contact) : Prop :=
  ∃ pause u c mark w', w.Later w' ∧ e = r.contact pause u c mark w'

namespace Run

/-- A new provider that had no contact yet. -/
def start (w : World) : Run := ⟨State.initial w.now.1, w.now.2, []⟩

/-- One more call. -/
def step (r : Remote) (x : Run) (k : Call) : Run :=
  let o := k.make r x.state x.world
  ⟨o.state, o.world, (k.contact? r x.state x.world).toList ++ x.log⟩

/-- A run of a new provider. -/
def after (r : Remote) (w : World) (ks : List Call) : Run := ks.foldl (step r) (start w)

/-- A call is refused: it sends nothing and tells until when the pause is on. -/
def Refused (r : Remote) (x : Run) (k : Call) (u : Instant) : Prop :=
  (k.make r x.state x.world).result = .error (.rateLimited u) ∧
    (x.step r k).world.network = x.world.network

/-- What holds after every run that begins in a world. -/
structure Inv (r : Remote) (w : World) (x : Run) : Prop where
  /-- The world went on. -/
  later : w.Later x.world
  /-- The pause is the last one that the server asked for. -/
  pause : x.state.pause = x.log.findSome? Contact.resume?
  /-- The contacts of the log were made. -/
  made : ∀ e ∈ x.log, e.MadeBy r w
  /-- They lie before all readings to come. -/
  past : ∀ e ∈ x.log, e.asked ≤ e.time ∧
    ∀ n, x.world.clock.taken ≤ n → e.asked ≤ w.clock.reading n
  /-- A response only came once the pauses asked for before had ended. -/
  ended : x.log.Pairwise fun newer older =>
    newer.response.isSome = true → ∀ u, older.resume? = some u → u ≤ newer.asked

theorem inv_start (r : Remote) (w : World) : Inv r w (start w) where
  later := w.later_now
  pause := rfl
  made := by simp [start]
  past := by simp [start]
  ended := List.Pairwise.nil

variable {r : Remote} {w : World} {x : Run} {k : Call} {e : Contact}

theorem log_step_of_contact (h : k.contact? r x.state x.world = some e) :
    (x.step r k).log = e :: x.log := by
  simp [step, h]

theorem log_step_of_no_contact (h : k.contact? r x.state x.world = none) :
    (x.step r k).log = x.log := by
  simp [step, h]

theorem isSome_response_of_resume? {u : Instant} (h : e.resume? = some u) :
    e.response.isSome = true := by
  obtain ⟨res, hres, -⟩ := resume?_eq_some_iff.mp h
  rw [hres]
  rfl

/-- **A pause that is still on is the one that the provider remembers.** -/
theorem Inv.pause_of_lt (h : Inv r w x) (he : e ∈ x.log) {u : Instant} (hu : e.resume? = some u)
    {n : Nat} (hn : x.world.clock.taken ≤ n) (hlt : w.clock.reading n < u) :
    x.state.pause = some u := by
  cases hlast : x.log.findSome? Contact.resume? with
  | none =>
    rw [List.findSome?_eq_none_iff.mp hlast e he] at hu
    cases hu
  | some u' =>
    obtain ⟨later, last, older, hlog, hlast', hnone⟩ := List.findSome?_eq_some_iff.mp hlast
    have hpairs := h.ended
    rw [hlog] at he hpairs
    rcases List.mem_append.mp he with hlater | hrest
    · rw [hnone e hlater] at hu
      cases hu
    rcases List.mem_cons.mp hrest with rfl | holder
    · rw [h.pause, hlast, ← hlast', hu]
    · -- The last contact that began a pause came after the end of this one.
      have hended : u ≤ last.asked :=
        (List.pairwise_cons.mp (List.pairwise_append.mp hpairs).2.1).1 e holder
          (isSome_response_of_resume? hlast') u hu
      have hpast : last.asked ≤ w.clock.reading n :=
        (h.past last (by rw [hlog]; simp)).2 n hn
      exact absurd hlt (Instant.le_trans hended hpast)

/-- A pause is on for a call exactly when some contact of the log asked for it. -/
theorem Inv.paused_iff {α : Type} (h : Inv r w x) {o : Outcome α} (he : Follows x.state x.world e o)
    (u : Instant) :
    pausedUntil? x.state.pause e.asked = some u ↔
      ∃ e' ∈ x.log, e'.resume? = some u ∧ e.asked < u := by
  obtain ⟨n, m, hn, -, -, hasked, -⟩ := he.readings
  rw [h.later.reading] at hasked
  rw [pausedUntil?_eq_some_iff]
  constructor
  · rintro ⟨hpause, hlt⟩
    rw [h.pause] at hpause
    obtain ⟨e', he', hu⟩ := List.exists_of_findSome?_eq_some hpause
    exact ⟨e', he', hu, hlt⟩
  · rintro ⟨e', he', hu, hlt⟩
    refine ⟨h.pause_of_lt he' hu hn ?_, hlt⟩
    rw [← hasked]
    exact hlt

/-- When a response comes, all pauses of the log have ended. -/
theorem Inv.ended_of_response {α : Type} (h : Inv r w x) {o : Outcome α}
    (he : Follows x.state x.world e o) (hres : e.response.isSome = true) {e' : Contact}
    (he' : e' ∈ x.log) {u : Instant} (hu : e'.resume? = some u) : u ≤ e.asked := by
  intro hlt
  have hpaused := (h.paused_iff he u).mpr ⟨e', he', hu, hlt⟩
  rw [he.unpaused hres] at hpaused
  cases hpaused

theorem madeBy_of_contact? (hlater : w.Later x.world)
    (h : k.contact? r x.state x.world = some e) : e.MadeBy r w := by
  cases hcached : k.isCached r with
  | false =>
    obtain ⟨key, c, -, -, hcontact⟩ := Call.exists_resolveSingle hcached x.state x.world
    rw [hcontact] at h
    exact ⟨_, _, _, _, _, hlater, (Option.some.inj h).symm⟩
  | true =>
    rw [Call.contact?_of_isCached hcached] at h
    obtain ⟨w', hasking, rfl⟩ := Option.map_eq_some_iff.mp h
    have hw' : w.Later w' := hlater.trans (Call.stale_of_asking? hasking).1
    exact ⟨_, _, _, _, _, hw'.trans (Remote.later_prepared x.state k.context w'), rfl⟩

/-- **The step.**  One more call keeps the invariant, if the clock does not go back. -/
theorem inv_step (hclock : w.clock.IsMonotone) (h : Inv r w x) (k : Call) :
    Inv r w (x.step r k) := by
  cases hk : k.contact? r x.state x.world with
  | none =>
    obtain ⟨-, hstate, hlater, -⟩ := Call.make_of_no_contact hk
    have hlog : (x.step r k).log = x.log := log_step_of_no_contact hk
    have hsame : (x.step r k).state = x.state := hstate
    refine ⟨h.later.trans hlater, ?_, hlog ▸ h.made, ?_, hlog ▸ h.ended⟩
    · rw [hsame, hlog, h.pause]
    · intro e he
      rw [hlog] at he
      obtain ⟨htime, hpast⟩ := h.past e he
      exact ⟨htime, fun n hn => hpast n (Nat.le_trans hlater.taken hn)⟩
  | some e =>
    have hfollows := Call.follows_make hk
    have hlog : (x.step r k).log = e :: x.log := log_step_of_contact hk
    have hlater : x.world.Later (x.step r k).world := hfollows.later
    have hpause : (x.step r k).state.pause = e.resume?.or x.state.pause := hfollows.pause
    obtain ⟨n, m, hn, hnm, hm, hasked, htime⟩ := hfollows.readings
    rw [h.later.reading] at hasked htime
    refine ⟨h.later.trans hlater, ?_, ?_, ?_, ?_⟩
    · rw [hpause, hlog, List.findSome?_cons, h.pause]
      cases e.resume? <;> rfl
    · intro e' he'
      rw [hlog] at he'
      rcases List.mem_cons.mp he' with rfl | he'
      · exact madeBy_of_contact? h.later hk
      · exact h.made e' he'
    · intro e' he'
      rw [hlog] at he'
      rcases List.mem_cons.mp he' with rfl | he'
      · -- The readings of the new contact lie before those that are still to come.
        rw [hasked, htime]
        refine ⟨hclock n m (Nat.le_of_lt hnm), ?_⟩
        intro i hi
        have hmi : m ≤ i := Nat.le_trans hm hi
        exact hclock n i (Nat.le_trans (Nat.le_of_lt hnm) hmi)
      · obtain ⟨htime', hpast⟩ := h.past e' he'
        exact ⟨htime', fun i hi => hpast i (Nat.le_trans hlater.taken hi)⟩
    · rw [hlog]
      refine List.pairwise_cons.mpr ⟨?_, h.ended⟩
      intro e' he' hres u hu
      exact h.ended_of_response hfollows hres he' hu

theorem inv_foldl (hclock : w.clock.IsMonotone) (h : Inv r w x) (ks : List Call) :
    Inv r w (ks.foldl (step r) x) := by
  induction ks generalizing x with
  | nil => exact h
  | cons k ks ih => exact ih (inv_step hclock h k)

/-- **The invariant.**  It holds after every run under a clock that does not go back. -/
theorem inv_after (hclock : w.clock.IsMonotone) (ks : List Call) : Inv r w (after r w ks) :=
  inv_foldl hclock (inv_start r w) ks

end Run

/-! ### Calls that are refused -/

theorem le_resume_of_seconds {e : Contact} {res : Http.Response} {text : String} {u : Instant}
    (hres : e.response = some res) (htext : res.headerText? "retry-after" = some text)
    (hseconds : (seconds? (Text.trim text)).isSome = true) (hu : e.resume? = some u) :
    e.time ≤ u := by
  obtain ⟨res', hres', -, hend⟩ := resume?_eq_some_iff.mp hu
  obtain rfl : res = res' := Option.some.inj (hres.symm.trans hres')
  rcases hend with ⟨text', htext', hend⟩ | ⟨-, rfl⟩
  · obtain rfl : text = text' := Option.some.inj (htext.symm.trans htext')
    exact le_of_requestedEnd? hseconds hend
  · show ¬ Instant.IsBefore _ _
    simp only [Instant.IsBefore, Instant.plus]
    omega

/-- **Which calls are refused, and until when.**  After every run under a clock that does not go
back, a call that needs the server is refused exactly when an earlier contact asked for a pause that
is still on, and it tells the end of that pause.  The pause afterwards is the one that the server
asked for in the contact of the call, and else the one before; when a response comes, all earlier
pauses have ended.  All other calls are answered from the cache and change nothing.  A contact asks
for a pause when its status is 429: until what the server says, if that is understood, and for ten
seconds otherwise; a number of seconds is counted from the time of the contact on. -/
theorem refused_iff_asked_for (r : Remote) {w : World} (hclock : w.clock.IsMonotone)
    (ks : List Call) (k : Call) :
    let x := Run.after r w ks
    let y := x.step r k
    (∀ e, k.contact? r x.state x.world = some e →
      (∀ u, x.Refused r k u ↔ ∃ e' ∈ x.log, e'.resume? = some u ∧ e.asked < u) ∧
      y.log = e :: x.log ∧ y.state.pause = e.resume?.or x.state.pause ∧
      (e.response.isSome = true → ∀ e' ∈ x.log, ∀ u, e'.resume? = some u → u ≤ e.asked)) ∧
    (k.contact? r x.state x.world = none →
      (k.make r x.state x.world).result = k.answer x.state.cache ∧ y.log = x.log ∧
      y.state = x.state ∧ y.world.network = x.world.network) ∧
    ∀ e ∈ y.log, e.MadeBy r w ∧ e.asked ≤ e.time ∧
      (∀ u, e.resume? = some u ↔ ∃ res, e.response = some res ∧ res.status = 429 ∧
        ((∃ text, res.headerText? "retry-after" = some text ∧
            requestedEnd? text e.time = some u) ∨
          ((∀ text, res.headerText? "retry-after" = some text →
            requestedEnd? text e.time = none) ∧ u = e.time.plus 10))) ∧
      ∀ res text u, e.response = some res → res.headerText? "retry-after" = some text →
        (seconds? (Text.trim text)).isSome = true → e.resume? = some u → e.time ≤ u := by
  intro x y
  have hx : Run.Inv r w x := Run.inv_after hclock ks
  have hy : Run.Inv r w y := Run.inv_step hclock hx k
  refine ⟨?_, ?_, ?_⟩
  · intro e hk
    have hfollows := Call.follows_make hk
    refine ⟨?_, Run.log_step_of_contact hk, hfollows.pause, ?_⟩
    · intro u
      rw [← hx.paused_iff hfollows u]
      exact hfollows.refused u
    · intro hres e' he' u hu
      exact hx.ended_of_response hfollows hres he' hu
  · intro hk
    obtain ⟨hresult, hstate, -, hnetwork⟩ := Call.make_of_no_contact hk
    exact ⟨hresult, Run.log_step_of_no_contact hk, hstate, hnetwork⟩
  · intro e he
    refine ⟨hy.made e he, (hy.past e he).1, fun u => resume?_eq_some_iff, ?_⟩
    intro res text u hres htext hseconds hu
    exact le_resume_of_seconds hres htext hseconds hu

/-- A server that wants to be left alone for two minutes. -/
def busyReply : Nat → Http.Reply
  | 0 => .answered { status := 429, headers := [("retry-after", "120")] }
  | _ => .lost

/-- The world with that server and a clock that stands still. -/
def busyWorld : World := ⟨{ reply := busyReply }, { reading := fun _ => ⟨0, 0⟩ }⟩

/-- In that world the second call is refused, though it is for all flags and not for one. -/
theorem refused_second_call :
    busyWorld.clock.IsMonotone ∧
      (Run.after Bulk.minuteRemote busyWorld [.resolve "a" ∅]).Refused Bulk.minuteRemote (.list ∅)
        ⟨120, 0⟩ := by
  have hclock : busyWorld.clock.IsMonotone := fun _ _ _ => (by decide : (⟨0, 0⟩ : Instant) ≤ ⟨0, 0⟩)
  refine ⟨hclock, ?_⟩
  have hlog : ((Run.after Bulk.minuteRemote busyWorld [.resolve "a" ∅]).log.any fun e =>
      e.resume? == some ⟨120, 0⟩) = true := by
    decide +kernel
  have hcontact : (((Call.list ∅).contact? Bulk.minuteRemote
      (Run.after Bulk.minuteRemote busyWorld [.resolve "a" ∅]).state
      (Run.after Bulk.minuteRemote busyWorld [.resolve "a" ∅]).world).any fun e =>
        decide (e.asked < ⟨120, 0⟩)) = true := by
    decide +kernel
  obtain ⟨e', he', hu⟩ := List.any_eq_true.mp hlog
  obtain ⟨e, hk, hlt⟩ := (Option.any_eq_true _ _).mp hcontact
  exact ((refused_iff_asked_for Bulk.minuteRemote hclock [.resolve "a" ∅] (.list ∅)).1 e hk).1
    ⟨120, 0⟩ |>.mpr ⟨e', he', by simpa using hu, by simpa using hlt⟩

end Pause
end RemoteFlags
