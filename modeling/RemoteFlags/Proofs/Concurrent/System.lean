import Mathlib.Logic.Function.Basic
import RemoteFlags.Proofs.Pause.Contact

/-!
# Concurrent evaluations

Any number of evaluations use one provider at the same time.  Each of them looks once whether a
pause is on, makes its attempts, and takes in what came back; between any two of these steps the
others may do theirs.  All that they share is the end of the last pause.

An evaluation that goes alone makes the steps that `Remote.post` makes: see
`exists_run_of_contact`.

## Main definitions

* `Phase`, `System` — where one evaluation and all of them have come to, with the requests that are
  on their way.
* `Event`, `Happening` — what one evaluation does, and when.
* `Step r ask x h y` — one step; `Run r ask log x` — steps of any evaluations in any order.
* `Happening.announces?`, `lastEnd` — the end of the pause that was asked for, by one step and last.

## Main results

* `Step.pause_eq`, `Step.phase_of_ne` — what a step does to the others.
* `Run.pause_eq` — the provider remembers the pause that was asked for last.
* `exists_run_of_contact` — an evaluation that goes alone.
-/

namespace RemoteFlags

theorem Instant.le_refl (t : Instant) : t ≤ t := by
  change ¬ IsBefore t t
  unfold IsBefore
  omega

namespace Concurrent

/-! ### Evaluations and their steps -/

/-- What an evaluation asks the server. -/
structure Question where
  /-- Where its requests go. -/
  url : Url
  /-- The context of the evaluation. -/
  context : Context
  /-- The mark of the answer that is known already. -/
  mark : Option String := none

/-- The request of every attempt. -/
def Question.request (r : Remote) (q : Question) : Http.Request := r.request q.url q.context q.mark

/-- Where an evaluation has come to. -/
inductive Phase where
  /-- It has not looked yet whether a pause is on. -/
  | fresh
  /-- It may make an attempt, and `left` more if that one fails. -/
  | ready (left : Nat)
  /-- An attempt is on its way, and `left` more may follow. -/
  | asking (left : Nat)
  /-- A response came. -/
  | answered (res : Http.Response)
  /-- It has ended, with the response that it takes in or with a failure. -/
  | done (result : Except FlagError Http.Response)

/-- It has begun and not ended. -/
def Phase.Underway : Phase → Prop
  | .ready _ | .asking _ | .answered _ => True
  | .fresh | .done _ => False

/-- Attempts may still follow. -/
def Phase.MayAsk : Phase → Prop
  | .ready _ | .asking _ => True
  | _ => False

/-- Where all evaluations have come to. -/
structure System where
  /-- The end of the last pause. -/
  pause : Option Instant := none
  /-- Where each evaluation has come to. -/
  phase : Nat → Phase := fun _ => .fresh
  /-- The requests that are on their way, with the evaluations that wait for them. -/
  flight : List (Nat × Http.Request) := []

/-- An evaluation comes to another phase. -/
def System.enter (x : System) (i : Nat) (p : Phase) : System :=
  { x with phase := Function.update x.phase i p }

@[simp] theorem System.phase_enter_self (x : System) (i : Nat) (p : Phase) :
    (x.enter i p).phase i = p := by
  simp [enter]

theorem System.phase_enter_of_ne (x : System) {i j : Nat} (h : j ≠ i) (p : Phase) :
    (x.enter i p).phase j = x.phase j := by
  simp [enter, h]

/-- What an evaluation does. -/
inductive Event where
  /-- It sees that a pause is on. -/
  | refused (u : Instant)
  /-- It sees that no pause is on. -/
  | passed
  /-- It makes an attempt. -/
  | started (q : Http.Request)
  /-- The attempt fails. -/
  | failed (f : Http.Fault)
  /-- The attempt brings a response. -/
  | replied (res : Http.Response)
  /-- It takes in the response, and begins a pause if that asks for one. -/
  | settled (res : Http.Response)

/-- What an evaluation does at a reading of the clock. -/
structure Happening where
  /-- The evaluation. -/
  evaluation : Nat
  /-- The reading of the clock. -/
  time : Instant
  /-- What it does. -/
  event : Event

/-- The end of the pause that a happening begins. -/
def Happening.announces? (h : Happening) : Option Instant :=
  match h.event with
  | .settled res => Pause.ofResponse? res h.time
  | _ => none

/-- The end of the pause that was begun last; the newest happenings come first. -/
def lastEnd (log : List Happening) : Option Instant := log.findSome? Happening.announces?

/-- What an evaluation comes to when it takes in a response. -/
def outcome (res : Http.Response) (now : Instant) : Except FlagError Http.Response :=
  match Pause.ofResponse? res now with
  | some u => .error (.rateLimited u)
  | none => .ok res

/-- One step of one evaluation.  Whether a pause is on is looked at once, before the first attempt.
Replies and failures come for any request that is on its way, and how long an evaluation waits after a
failure is left open. -/
inductive Step (r : Remote) (ask : Nat → Question) : System → Happening → System → Prop
  | refused {x : System} {i : Nat} {t u : Instant} (hphase : x.phase i = .fresh)
      (hpause : Pause.pausedUntil? x.pause t = some u) :
      Step r ask x ⟨i, t, .refused u⟩ (x.enter i (.done (.error (.rateLimited u))))
  | passed {x : System} {i : Nat} {t : Instant} (hphase : x.phase i = .fresh)
      (hpause : Pause.pausedUntil? x.pause t = none) :
      Step r ask x ⟨i, t, .passed⟩ (x.enter i (.ready r.maxRetries))
  | started {x : System} {i left : Nat} {t : Instant} (hphase : x.phase i = .ready left) :
      Step r ask x ⟨i, t, .started ((ask i).request r)⟩
        { x.enter i (.asking left) with flight := (i, (ask i).request r) :: x.flight }
  | failed {x : System} {i left : Nat} {t : Instant} {q : Http.Request} {f : Http.Fault}
      (hphase : x.phase i = .asking (left + 1)) (hflight : (i, q) ∈ x.flight) :
      Step r ask x ⟨i, t, .failed f⟩
        { x.enter i (.ready left) with flight := x.flight.erase (i, q) }
  | gaveUp {x : System} {i : Nat} {t : Instant} {q : Http.Request} {f : Http.Fault}
      (hphase : x.phase i = .asking 0) (hflight : (i, q) ∈ x.flight) :
      Step r ask x ⟨i, t, .failed f⟩
        { x.enter i (.done (.error (.http f))) with flight := x.flight.erase (i, q) }
  | replied {x : System} {i left : Nat} {t : Instant} {q : Http.Request} {res : Http.Response}
      (hphase : x.phase i = .asking left) (hflight : (i, q) ∈ x.flight) :
      Step r ask x ⟨i, t, .replied res⟩
        { x.enter i (.answered res) with flight := x.flight.erase (i, q) }
  | settled {x : System} {i : Nat} {t : Instant} {res : Http.Response}
      (hphase : x.phase i = .answered res) :
      Step r ask x ⟨i, t, .settled res⟩
        { x.enter i (.done (outcome res t)) with
          pause := (Pause.ofResponse? res t).or x.pause }

/-- Steps of any evaluations in any order, under a clock that does not go back.  The newest happening
comes first. -/
inductive Run (r : Remote) (ask : Nat → Question) : List Happening → System → Prop
  | nil : Run r ask [] {}
  | cons {log : List Happening} {x y : System} {h : Happening} (hrun : Run r ask log x)
      (hpast : ∀ g ∈ log, g.time ≤ h.time) (hstep : Step r ask x h y) : Run r ask (h :: log) y

/-! ### What a step does -/

section

variable {r : Remote} {ask : Nat → Question} {x y : System} {h : Happening} {i : Nat}

/-- A step begins at most one pause, which overwrites the last one. -/
theorem Step.pause_eq (hstep : Step r ask x h y) : y.pause = h.announces?.or x.pause := by
  cases hstep <;> rfl

theorem Step.phase_of_ne (hstep : Step r ask x h y) {j : Nat} (hj : j ≠ h.evaluation) :
    y.phase j = x.phase j := by
  cases hstep <;> exact x.phase_enter_of_ne hj _

theorem Step.phase_of_announces (hstep : Step r ask x h y) {u : Instant}
    (hu : h.announces? = some u) :
    (x.phase h.evaluation).Underway ∧ ¬ (y.phase h.evaluation).Underway := by
  cases hstep with
  | settled hphase => simp [hphase, Phase.Underway, System.enter]
  | _ => cases hu

/-- Only by looking for a pause, and seeing none, an evaluation gets under way. -/
theorem Step.underway (hstep : Step r ask x h y) (hy : (y.phase h.evaluation).Underway) :
    (x.phase h.evaluation).Underway ∨ Pause.pausedUntil? x.pause h.time = none := by
  cases hstep with
  | refused hphase hpause => simp [Phase.Underway] at hy
  | passed hphase hpause => exact .inr hpause
  | gaveUp hphase hflight => simp [Phase.Underway, System.enter] at hy
  | settled hphase => simp [Phase.Underway, System.enter] at hy
  | _ hphase => exact .inl (by simp [hphase, Phase.Underway])

theorem Step.mayAsk (hstep : Step r ask x h y) (hy : (y.phase h.evaluation).MayAsk) :
    (x.phase h.evaluation).MayAsk ∨ h.event = .passed := by
  cases hstep with
  | passed hphase hpause => exact .inr rfl
  | started hphase => exact .inl (by simp [hphase, Phase.MayAsk])
  | failed hphase hflight => exact .inl (by simp [hphase, Phase.MayAsk])
  | _ => simp [Phase.MayAsk, System.enter] at hy

end

/-! ### What runs have in common -/

namespace Run

variable {r : Remote} {ask : Nat → Question} {x : System} {log newer older : List Happening}
  {h : Happening}

/-- The provider remembers the pause that was begun last. -/
theorem pause_eq (hrun : Run r ask log x) : x.pause = lastEnd log := by
  induction hrun with
  | nil => rfl
  | cons hrun hpast hstep ih =>
    rw [hstep.pause_eq, ih, lastEnd, lastEnd, List.findSome?_cons]
    cases Happening.announces? _ <;> rfl

/-- Every happening of a run was a step when it happened. -/
theorem exists_step (hrun : Run r ask (newer ++ h :: older) x) :
    ∃ y z, Run r ask older y ∧ Step r ask y h z ∧ ∀ g ∈ older, g.time ≤ h.time := by
  induction newer generalizing x with
  | nil =>
    obtain - | ⟨hrun, hpast, hstep⟩ := hrun
    exact ⟨_, _, hrun, hstep, hpast⟩
  | cons g newer ih =>
    obtain - | ⟨hrun, -, -⟩ := hrun
    exact ih hrun

/-- An evaluation that did nothing has not begun. -/
theorem phase_of_forall_ne (hrun : Run r ask log x) {i : Nat}
    (hi : ∀ h ∈ log, i ≠ h.evaluation) : x.phase i = .fresh := by
  induction hrun with
  | nil => rfl
  | cons hrun hpast hstep ih =>
    rw [hstep.phase_of_ne (hi _ List.mem_cons_self)]
    exact ih fun g hg => hi g (List.mem_cons_of_mem _ hg)

/-- An evaluation that makes attempts has looked for a pause before. -/
theorem exists_passed (hrun : Run r ask log x) {i : Nat} (hi : (x.phase i).MayAsk) :
    ∃ later t earlier, log = later ++ ⟨i, t, .passed⟩ :: earlier := by
  induction hrun with
  | nil => exact hi.elim
  | @cons log x y h hrun hpast hstep ih =>
    have hbefore : (x.phase i).MayAsk → ∃ later t earlier,
        h :: log = later ++ ⟨i, t, .passed⟩ :: earlier := by
      intro hx
      obtain ⟨later, t, earlier, rfl⟩ := ih hx
      exact ⟨h :: later, t, earlier, rfl⟩
    by_cases hevaluation : i = h.evaluation
    · subst hevaluation
      rcases hstep.mayAsk hi with hx | hpassed
      · exact hbefore hx
      · exact ⟨[], h.time, log, by rw [← hpassed]; rfl⟩
    · rw [hstep.phase_of_ne hevaluation] at hi
      exact hbefore hi

end Run

/-! ### An evaluation that goes alone -/

section

variable {r : Remote} {ask : Nat → Question} {x : System} {log : List Happening} {i : Nat}

/-- What is known after some steps of one evaluation within a span of time. -/
structure Alone (r : Remote) (ask : Nat → Question) (i : Nat) (t t' : Instant)
    (log log' : List Happening) (y : System) : Prop where
  /-- They were made after all others. -/
  run : Run r ask (log' ++ log) y
  /-- They were made by the evaluation, and in time. -/
  own : ∀ h ∈ log', h.evaluation = i ∧ t ≤ h.time ∧ h.time ≤ t'

theorem Alone.cons {t t' : Instant} {log' : List Happening} {y z : System} {h : Happening}
    (ha : Alone r ask i t t' log log' y) (hpast : ∀ g ∈ log, g.time ≤ t)
    (hstep : Step r ask y h z) (hi : h.evaluation = i) (ht : t' ≤ h.time) (ht' : t ≤ h.time) :
    Alone r ask i t h.time log (h :: log') z := by
  refine ⟨.cons ha.run ?_ hstep, ?_⟩
  · intro g hg
    rcases List.mem_append.mp hg with hg | hg
    · exact Instant.le_trans (ha.own g hg).2.2 ht
    · exact Instant.le_trans (hpast g hg) ht'
  · intro g hg
    rcases List.mem_cons.mp hg with rfl | hg
    · exact ⟨hi, ht', Instant.le_refl _⟩
    · obtain ⟨hevaluation, hfrom, hto⟩ := ha.own g hg
      exact ⟨hevaluation, hfrom, Instant.le_trans hto ht⟩

theorem Alone.mono {t t' t'' : Instant} {log' : List Happening} {y : System}
    (ha : Alone r ask i t t' log log' y) (h : t' ≤ t'') : Alone r ask i t t'' log log' y := by
  refine ⟨ha.run, fun g hg => ?_⟩
  obtain ⟨hevaluation, hfrom, hto⟩ := ha.own g hg
  exact ⟨hevaluation, hfrom, Instant.le_trans hto h⟩

/-- What an evaluation comes to by its attempts. -/
def reached : Except Http.Fault Http.Response → Phase
  | .ok res => .answered res
  | .error f => .done (.error (.http f))

/-- Attempts without company are those of the provider. -/
theorem exists_attempts {left : Nat} {t : Instant} {log' : List Happening}
    (hpast : ∀ g ∈ log, g.time ≤ t) (ha : Alone r ask i t t log log' x)
    (hphase : x.phase i = .ready left) (w : World) :
    ∃ log'' y, Alone r ask i t t log log'' y ∧ y.pause = x.pause ∧
      y.phase i = reached (Remote.attempts left w ((ask i).request r)).1 := by
  have hle := Instant.le_refl t
  -- Induction on the attempts that are left; every failure uses up one of them.
  induction left generalizing w x log' with
  | zero =>
    let x₁ : System :=
      { x.enter i (.asking 0) with flight := (i, (ask i).request r) :: x.flight }
    have hasking : Alone r ask i t t log _ x₁ := ha.cons hpast (.started hphase) rfl hle hle
    have hphase₁ : x₁.phase i = .asking 0 := x.phase_enter_self i _
    have hflight : (i, (ask i).request r) ∈ x₁.flight := List.mem_cons_self
    cases hsend : (Remote.attempts 0 w ((ask i).request r)).1 with
    | ok res =>
      have hstep : Step r ask x₁ ⟨i, t, .replied res⟩ _ := .replied hphase₁ hflight
      exact ⟨_, _, hasking.cons hpast hstep rfl hle hle, rfl, x₁.phase_enter_self i _⟩
    | error f =>
      have hstep : Step r ask x₁ ⟨i, t, .failed f⟩ _ := .gaveUp hphase₁ hflight
      exact ⟨_, _, hasking.cons hpast hstep rfl hle hle, rfl, x₁.phase_enter_self i _⟩
  | succ left ih =>
    let x₁ : System :=
      { x.enter i (.asking (left + 1)) with flight := (i, (ask i).request r) :: x.flight }
    have hasking : Alone r ask i t t log _ x₁ := ha.cons hpast (.started hphase) rfl hle hle
    have hphase₁ : x₁.phase i = .asking (left + 1) := x.phase_enter_self i _
    have hflight : (i, (ask i).request r) ∈ x₁.flight := List.mem_cons_self
    rw [Remote.attempts_succ]
    cases hsend : (w.send ((ask i).request r)).1 with
    | ok res =>
      have hstep : Step r ask x₁ ⟨i, t, .replied res⟩ _ := .replied hphase₁ hflight
      exact ⟨_, _, hasking.cons hpast hstep rfl hle hle, rfl, x₁.phase_enter_self i _⟩
    | error f =>
      have hstep : Step r ask x₁ ⟨i, t, .failed f⟩ _ := .failed hphase₁ hflight
      exact ih (hasking.cons hpast hstep rfl hle hle) (x₁.phase_enter_self i _)
        (w.send ((ask i).request r)).2

/-- **An evaluation that goes alone** makes the steps that the provider makes for it: it sees the pause
that the provider sees, ends with what comes back, and leaves the pause that the contact leaves. -/
theorem exists_run_of_contact (hrun : Run r ask log x) (hphase : x.phase i = .fresh) {w : World}
    (hpast : ∀ g ∈ log, g.time ≤ w.now.1) :
    let e := r.contact x.pause (ask i).url (ask i).context (ask i).mark w
    let told := (r.post x.pause (ask i).url (ask i).context (ask i).mark w).1
    e.asked ≤ e.time →
    ∃ log' y, Alone r ask i e.asked e.time log log' y ∧ y.pause = e.resume?.or x.pause ∧
      y.phase i = .done (told.bind fun res => outcome res e.time) := by
  intro e told htime
  have hle : e.asked ≤ e.asked := Instant.le_refl _
  have hstart : Alone r ask i e.asked e.asked log [] x := ⟨hrun, by simp⟩
  have hpost := Remote.post_eq r x.pause (ask i).url (ask i).context (ask i).mark w
  have hresume : e.resume? = told.toOption.bind fun res => Pause.ofResponse? res e.time := rfl
  cases hpaused : Pause.pausedUntil? x.pause w.now.1 with
  | some u =>
    have htold : told = .error (.rateLimited u) := by
      simp only [told, hpost, hpaused]
    have hstep : Step r ask x ⟨i, e.asked, .refused u⟩ _ := .refused hphase hpaused
    rw [hresume, htold]
    exact ⟨_, _, (hstart.cons hpast hstep rfl hle hle).mono htime, rfl, x.phase_enter_self i _⟩
  | none =>
    have hstep : Step r ask x ⟨i, e.asked, .passed⟩ _ := .passed hphase hpaused
    obtain ⟨log', y, ha, hpause, hreached⟩ := exists_attempts (w := w.now.2) hpast
      (hstart.cons hpast hstep rfl hle hle) (x.phase_enter_self i _)
    have hattempts : told = (Remote.attempts r.maxRetries w.now.2
        ((ask i).request r)).1.mapError .http := by
      simp only [told, hpost, hpaused]
      rfl
    cases hsent : (Remote.attempts r.maxRetries w.now.2 ((ask i).request r)).1 with
    | error f =>
      have htold : told = .error (.http f) := by rw [hattempts, hsent]; rfl
      rw [hsent] at hreached
      rw [hresume, htold]
      exact ⟨log', y, ha.mono htime, hpause, hreached⟩
    | ok res =>
      have htold : told = .ok res := by rw [hattempts, hsent]; rfl
      rw [hsent] at hreached
      have hsettled : Step r ask y ⟨i, e.time, .settled res⟩ _ := .settled hreached
      refine ⟨_, _, ha.cons hpast hsettled rfl htime htime, ?_, ?_⟩
      · rw [hresume, htold, hsettled.pause_eq, hpause]
        rfl
      · rw [htold]
        exact y.phase_enter_self i _

end

end Concurrent

end RemoteFlags
