import RemoteFlags.Proofs.Concurrent.System

/-!
# What keeps a provider silent, and what does not

A pause keeps back the evaluations that look for it, and no others.  An evaluation looks once, before
its first attempt; and of all pauses that were begun it sees the last one only.  So an attempt falls
into a pause in two cases: the pause was begun after the evaluation had looked, or another one that
ended sooner was begun in its place.  Neither happens as long as every pause is begun by an evaluation
that is under way alone.

## Main definitions

* `Ended log u` — an end that lies in the past.
* `Apart r ask log` — pauses are only begun by evaluations that are under way alone.
* `Inv log x` — the invariant of runs with that property.

## Main results

* `Run.le_of_passed`, `Run.exists_check` — what an evaluation sees, and when.
* `inv_step`, `inv_of_apart` — the invariant, along one step and along runs.
* `attempt_in_pause` — **when attempts fall into a pause.**
* `not_silent` — attempts do fall into pauses, and pauses are cut short.
-/

namespace RemoteFlags
namespace Concurrent

variable {r : Remote} {ask : Nat → Question} {x y : System} {log newer older : List Happening}
  {h : Happening} {i : Nat} {t u : Instant}

theorem not_lt_of_le {a b : Instant} (hle : a ≤ b) : ¬ b < a := hle

/-! ### What an evaluation sees -/

theorem le_of_unpaused {pause : Option Instant} (hpause : Pause.pausedUntil? pause t = none)
    (hu : pause = some u) : u ≤ t := by
  intro hlt
  have hpaused := Pause.pausedUntil?_eq_some_iff.mpr ⟨hu, hlt⟩
  rw [hpause] at hpaused
  cases hpaused

/-- An evaluation that is refused sees the pause that was begun last. -/
theorem Run.lt_of_refused (hrun : Run r ask (newer ++ ⟨i, t, .refused u⟩ :: older) x) :
    lastEnd older = some u ∧ t < u := by
  obtain ⟨y, z, hrun, hstep, -⟩ := hrun.exists_step
  obtain ⟨-, hpause⟩ := hstep
  rw [hrun.pause_eq] at hpause
  exact Pause.pausedUntil?_eq_some_iff.mp hpause

/-- An evaluation that passes sees that this pause has ended. -/
theorem Run.le_of_passed (hrun : Run r ask (newer ++ ⟨i, t, .passed⟩ :: older) x)
    (hu : lastEnd older = some u) : u ≤ t := by
  obtain ⟨y, z, hrun, hstep, -⟩ := hrun.exists_step
  obtain - | ⟨-, hpause⟩ := hstep
  rw [hrun.pause_eq] at hpause
  exact le_of_unpaused hpause hu

/-- Before an attempt the evaluation has looked for a pause. -/
theorem Run.exists_check {q : Http.Request}
    (hrun : Run r ask (newer ++ ⟨i, t, .started q⟩ :: older) x) :
    ∃ later t₀ earlier, older = later ++ ⟨i, t₀, .passed⟩ :: earlier ∧ t₀ ≤ t := by
  obtain ⟨y, z, hbefore, hstep, hpast⟩ := hrun.exists_step
  obtain - | - | hphase := hstep
  have hasks : (y.phase i).MayAsk := by
    rw [hphase]
    trivial
  obtain ⟨later, t₀, earlier, rfl⟩ := hbefore.exists_passed hasks
  have hcheck : ⟨i, t₀, .passed⟩ ∈ later ++ (⟨i, t₀, .passed⟩ : Happening) :: earlier :=
    List.mem_append_right later List.mem_cons_self
  exact ⟨later, t₀, earlier, rfl, hpast _ hcheck⟩

/-- Of the pauses that were begun before an evaluation looked, only those that others have replaced
can be on when it makes an attempt. -/
theorem replaced_of_lt {g : Happening} {earlier : List Happening} {t₀ : Instant} (ht : t₀ ≤ t)
    (hseen : ∀ u', lastEnd earlier = some u' → u' ≤ t₀) (hg : g ∈ earlier)
    (hu : g.announces? = some u) (hlt : t < u) :
    ∃ between g' u' before, earlier = between ++ g' :: before ∧ g'.announces? = some u' ∧
      u' ≤ t₀ ∧ g ∈ before := by
  cases hlast : lastEnd earlier with
  | none =>
    rw [List.findSome?_eq_none_iff.mp hlast g hg] at hu
    cases hu
  | some u' =>
    have hle : u' ≤ t₀ := hseen u' hlast
    obtain ⟨between, g', before, rfl, hg', hbetween⟩ := List.findSome?_eq_some_iff.mp hlast
    refine ⟨between, g', u', before, rfl, hg', hle, ?_⟩
    rcases List.mem_append.mp hg with hg | hg
    · rw [hbetween g hg] at hu
      cases hu
    · rcases List.mem_cons.mp hg with rfl | hg
      · -- It would be the pause that had ended.
        obtain rfl : u' = u := Option.some.inj (hg'.symm.trans hu)
        exact absurd hlt (not_lt_of_le (Instant.le_trans hle ht))
      · exact hg

/-! ### Evaluations that are under way alone -/

/-- An end that some happening has reached. -/
def Ended (log : List Happening) (u : Instant) : Prop := ∃ h ∈ log, u ≤ h.time

/-- A pause is only begun by an evaluation while no other one is under way. -/
def Apart (r : Remote) (ask : Nat → Question) (log : List Happening) : Prop :=
  ∀ newer h older x, log = newer ++ h :: older → Run r ask older x → h.announces?.isSome = true →
    ∀ j, j ≠ h.evaluation → ¬ (x.phase j).Underway

theorem Ended.cons (hu : Ended log u) (h : Happening) : Ended (h :: log) u := by
  obtain ⟨g, hg, hle⟩ := hu
  exact ⟨g, List.mem_cons_of_mem h hg, hle⟩

/-- What holds after every run in which pauses are begun apart. -/
structure Inv (log : List Happening) (x : System) : Prop where
  /-- All pauses have ended but the last one. -/
  last : ∀ g ∈ log, ∀ u, g.announces? = some u → x.pause = some u ∨ Ended log u
  /-- While an evaluation is under way, all have. -/
  underway : ∀ i, (x.phase i).Underway → ∀ g ∈ log, ∀ u, g.announces? = some u → Ended log u

/-- **The step.**  A new pause is begun when all others have ended, and an evaluation gets under way
when all have. -/
theorem inv_step (hinv : Inv log x) (hstep : Step r ask x h y)
    (hapart : h.announces?.isSome = true → ∀ j, j ≠ h.evaluation → ¬ (x.phase j).Underway) :
    Inv (h :: log) y := by
  have hpause := hstep.pause_eq
  cases hu : h.announces? with
  | some u =>
    obtain ⟨hbefore, hafter⟩ := hstep.phase_of_announces hu
    rw [hu] at hpause
    refine ⟨?_, ?_⟩
    · intro g hg u' hu'
      rcases List.mem_cons.mp hg with rfl | hg
      · exact .inl (hpause.trans (hu.symm.trans hu'))
      · exact .inr ((hinv.underway _ hbefore g hg u' hu').cons h)
    · intro j hj
      by_cases hne : j = h.evaluation
      · exact absurd (hne ▸ hj) hafter
      · rw [hstep.phase_of_ne hne] at hj
        exact absurd hj (hapart (by rw [hu]; rfl) j hne)
  | none =>
    rw [hu, Option.none_or] at hpause
    -- Nothing new was begun, so every pause of the log was begun before.
    have hlog : ∀ g ∈ h :: log, ∀ u, g.announces? = some u → g ∈ log := by
      intro g hg u hgu
      rcases List.mem_cons.mp hg with rfl | hg
      · rw [hu] at hgu
        cases hgu
      · exact hg
    refine ⟨?_, ?_⟩
    · intro g hg u hgu
      rw [hpause]
      exact (hinv.last g (hlog g hg u hgu) u hgu).imp_right (·.cons h)
    · intro j hj g hg u hgu
      have hold : (x.phase j).Underway → Ended (h :: log) u := fun hx =>
        (hinv.underway j hx g (hlog g hg u hgu) u hgu).cons h
      by_cases hne : j = h.evaluation
      · subst hne
        rcases hstep.underway hj with hx | hunpaused
        · exact hold hx
        · rcases hinv.last g (hlog g hg u hgu) u hgu with hlast | hended
          · exact ⟨h, List.mem_cons_self, le_of_unpaused hunpaused hlast⟩
          · exact hended.cons h
      · rw [hstep.phase_of_ne hne] at hj
        exact hold hj

/-- The run: by induction, the newest step being the last one. -/
theorem inv_of_apart (hrun : Run r ask log x) (hapart : Apart r ask log) : Inv log x := by
  induction hrun with
  | nil => exact ⟨by simp, by simp⟩
  | @cons log x y h hrun hpast hstep ih =>
    have hbefore : Apart r ask log := fun newer g older z hlog =>
      hapart (h :: newer) g older z (by rw [hlog, List.cons_append])
    exact inv_step (ih hbefore) hstep (hapart [] h log x rfl hrun)

/-- An attempt falls into no pause as long as pauses are begun apart. -/
theorem le_of_apart {q : Http.Request}
    (hrun : Run r ask (newer ++ ⟨i, t, .started q⟩ :: older) x) (hapart : Apart r ask older)
    {g : Happening} (hg : g ∈ older) (hu : g.announces? = some u) : u ≤ t := by
  obtain ⟨y, z, hbefore, hstep, hpast⟩ := hrun.exists_step
  obtain - | - | hphase := hstep
  have hunderway : (y.phase i).Underway := by
    rw [hphase]
    trivial
  obtain ⟨h, hh, hle⟩ := (inv_of_apart hbefore hapart).underway i hunderway g hg u hu
  exact Instant.le_trans hle (hpast h hh)

/-! ### Attempts and pauses -/

/-- **When attempts fall into a pause.**  In every order of the steps of any number of evaluations:

* an evaluation is refused when it looks, and sends nothing, exactly while the pause that was begun
  last is on;
* every attempt is made by an evaluation that has looked before; and if a pause is on at the time of
  the attempt, it was begun after that look, or it was replaced before by another one that had ended
  at that look;
* no attempt is made while a pause is on as long as every pause is begun by an evaluation while no
  other one is under way. -/
theorem attempt_in_pause (hrun : Run r ask log x) :
    (∀ newer older i t u, log = newer ++ ⟨i, t, .refused u⟩ :: older →
      lastEnd older = some u ∧ t < u) ∧
    (∀ newer older i t u, log = newer ++ ⟨i, t, .passed⟩ :: older →
      lastEnd older = some u → u ≤ t) ∧
    (∀ newer older i t q, log = newer ++ ⟨i, t, .started q⟩ :: older →
      ∃ later t₀ earlier, older = later ++ ⟨i, t₀, .passed⟩ :: earlier ∧ t₀ ≤ t ∧
        ∀ g ∈ older, ∀ u, g.announces? = some u → t < u →
          g ∈ later ∨ ∃ between g' u' before, earlier = between ++ g' :: before ∧
            g'.announces? = some u' ∧ u' ≤ t₀ ∧ g ∈ before) ∧
    ∀ newer older i t q, log = newer ++ ⟨i, t, .started q⟩ :: older → Apart r ask older →
      ∀ g ∈ older, ∀ u, g.announces? = some u → u ≤ t := by
  refine ⟨?_, ?_, ?_, ?_⟩
  · rintro newer older i t u rfl
    exact hrun.lt_of_refused
  · rintro newer older i t u rfl hu
    exact hrun.le_of_passed hu
  · rintro newer older i t q rfl
    obtain ⟨later, t₀, earlier, rfl, ht⟩ := hrun.exists_check
    refine ⟨later, t₀, earlier, rfl, ht, ?_⟩
    intro g hg u hu hlt
    rcases List.mem_append.mp hg with hg | hg
    · exact .inl hg
    · rcases List.mem_cons.mp hg with rfl | hg
      · cases hu
      · refine .inr (replaced_of_lt ht (fun u' hu' => ?_) hg hu hlt)
        have hcheck : Run r ask ((newer ++ ⟨i, t, .started q⟩ :: later) ++
            ⟨i, t₀, .passed⟩ :: earlier) x := by simpa using hrun
        exact hcheck.le_of_passed hu'
  · rintro newer older i t q rfl hapart g hg u hu
    exact le_of_apart hrun hapart hg hu

/-! ### Two evaluations at the same time -/

/-- A provider that makes a second attempt. -/
def retrying : Remote where
  base := { scheme := "http", host := some "flags.test", segments := [""] }
  headers := ∅
  mode := .single
  lifetime := 60
  maxRetries := 1
  retryBackoff := 1000
  timeout := 10000

/-- All evaluations ask for the same flag. -/
def sameQuestion : Nat → Question := fun _ =>
  { url := retrying.endpoint (some "a"), context := ∅ }

/-- The request that all of them send. -/
def sameRequest : Http.Request := (sameQuestion 0).request retrying

/-- A response that asks for a pause of some seconds. -/
def tooMany (seconds : String) : Http.Response :=
  ⟨sameRequest.url, { status := 429, headers := [("retry-after", seconds)] }⟩

/-- Two evaluations look for a pause and make an attempt, and one of them is told to pause for a
minute. -/
def onePaused : List Happening :=
  [⟨0, ⟨1, 0⟩, .settled (tooMany "60")⟩, ⟨0, ⟨1, 0⟩, .replied (tooMany "60")⟩,
    ⟨1, ⟨0, 0⟩, .started sameRequest⟩, ⟨1, ⟨0, 0⟩, .passed⟩,
    ⟨0, ⟨0, 0⟩, .started sameRequest⟩, ⟨0, ⟨0, 0⟩, .passed⟩]

theorem run_onePaused : ∃ x, Run retrying sameQuestion onePaused x ∧ x.phase 1 = .asking 1 ∧
    (1, sameRequest) ∈ x.flight := by
  have h₀ : Run retrying sameQuestion [] {} := .nil
  have h₁ := h₀.cons (h := ⟨0, ⟨0, 0⟩, .passed⟩) (by decide) (.passed rfl rfl)
  have h₂ := h₁.cons (h := ⟨0, ⟨0, 0⟩, .started sameRequest⟩) (by decide) (.started rfl)
  have h₃ := h₂.cons (h := ⟨1, ⟨0, 0⟩, .passed⟩) (by decide) (.passed rfl rfl)
  have h₄ := h₃.cons (h := ⟨1, ⟨0, 0⟩, .started sameRequest⟩) (by decide) (.started rfl)
  have h₅ := h₄.cons (h := ⟨0, ⟨1, 0⟩, .replied (tooMany "60")⟩) (by decide)
    (.replied rfl (List.mem_cons_of_mem _ List.mem_cons_self))
  have h₆ := h₅.cons (h := ⟨0, ⟨1, 0⟩, .settled (tooMany "60")⟩) (by decide) (.settled rfl)
  exact ⟨_, h₆, rfl, List.mem_cons_self⟩

theorem announces_onePaused :
    (⟨0, ⟨1, 0⟩, .settled (tooMany "60")⟩ : Happening).announces? = some ⟨61, 0⟩ := by
  decide +kernel

/-- The attempt of the other one fails, and it makes its second attempt. -/
def retriedInPause : List Happening :=
  ⟨1, ⟨2, 0⟩, .started sameRequest⟩ ::
    ⟨1, ⟨1, 0⟩, .failed (.sending (Http.shown sameRequest.url))⟩ :: onePaused

theorem run_retriedInPause : ∃ x, Run retrying sameQuestion retriedInPause x := by
  obtain ⟨x, hrun, hphase, hflight⟩ := run_onePaused
  have hfailed := hrun.cons
    (h := ⟨1, ⟨1, 0⟩, .failed (.sending (Http.shown sameRequest.url))⟩) (by decide)
    (.failed hphase hflight)
  exact ⟨_, hfailed.cons (by decide) (.started (x.phase_enter_self 1 _))⟩

/-- The other one is told to pause for a second. -/
def cutShort : List Happening :=
  ⟨1, ⟨2, 0⟩, .settled (tooMany "1")⟩ :: ⟨1, ⟨2, 0⟩, .replied (tooMany "1")⟩ :: onePaused

theorem run_cutShort : ∃ x, Run retrying sameQuestion cutShort x ∧ x.pause = some ⟨3, 0⟩ := by
  obtain ⟨x, hrun, hphase, hflight⟩ := run_onePaused
  have hreplied := hrun.cons (h := ⟨1, ⟨2, 0⟩, .replied (tooMany "1")⟩) (by decide)
    (.replied hphase hflight)
  refine ⟨_, hreplied.cons (by decide) (.settled (x.phase_enter_self 1 _)), ?_⟩
  have hend : Pause.ofResponse? (tooMany "1") ⟨2, 0⟩ = some ⟨3, 0⟩ := by decide +kernel
  rw [hend]
  rfl

/-- All that was begun before the second attempt is a pause of a minute. -/
theorem announces_retriedInPause {g : Happening} (hg : g ∈ retriedInPause.tail) {u : Instant}
    (hu : g.announces? = some u) : u = ⟨61, 0⟩ := by
  rcases List.mem_cons.mp hg with rfl | hg
  · cases hu
  rcases List.mem_cons.mp hg with rfl | hg
  · exact Option.some.inj (hu.symm.trans announces_onePaused)
  · have hnone : g.announces? = none := by
      simp only [List.mem_cons, List.not_mem_nil, or_false] at hg
      rcases hg with rfl | rfl | rfl | rfl | rfl <;> rfl
    rw [hnone] at hu
    cases hu

/-- One evaluation is told to pause for a second, and the other one looks for a pause when that has
ended. -/
def oneByOne : List Happening :=
  [⟨1, ⟨3, 0⟩, .started sameRequest⟩, ⟨1, ⟨3, 0⟩, .passed⟩,
    ⟨0, ⟨1, 0⟩, .settled (tooMany "1")⟩, ⟨0, ⟨1, 0⟩, .replied (tooMany "1")⟩,
    ⟨0, ⟨0, 0⟩, .started sameRequest⟩, ⟨0, ⟨0, 0⟩, .passed⟩]

theorem run_oneByOne : ∃ x, Run retrying sameQuestion oneByOne x := by
  have h₀ : Run retrying sameQuestion [] {} := .nil
  have h₁ := h₀.cons (h := ⟨0, ⟨0, 0⟩, .passed⟩) (by decide) (.passed rfl rfl)
  have h₂ := h₁.cons (h := ⟨0, ⟨0, 0⟩, .started sameRequest⟩) (by decide) (.started rfl)
  have h₃ := h₂.cons (h := ⟨0, ⟨1, 0⟩, .replied (tooMany "1")⟩) (by decide)
    (.replied rfl List.mem_cons_self)
  have h₄ := h₃.cons (h := ⟨0, ⟨1, 0⟩, .settled (tooMany "1")⟩) (by decide) (.settled rfl)
  have h₅ := h₄.cons (h := ⟨1, ⟨3, 0⟩, .passed⟩) (by decide) (.passed rfl (by decide +kernel))
  exact ⟨_, h₅.cons (by decide) (.started rfl)⟩

theorem apart_oneByOne : Apart retrying sameQuestion oneByOne.tail := by
  intro newer h older x hlog hrun hannounces j hj
  cases newer with
  | nil =>
    obtain rfl := (List.cons.inj hlog).1
    cases hannounces
  | cons g newer =>
    -- Before the second look only the first evaluation did anything.
    have hfirst : ∀ g ∈ oneByOne.tail.tail, g.evaluation = 0 := by decide
    have htail : oneByOne.tail.tail = newer ++ h :: older := (List.cons.inj hlog).2
    have hzero : h.evaluation = 0 := hfirst h (by rw [htail]; simp)
    have hfresh : x.phase j = .fresh := by
      refine hrun.phase_of_forall_ne fun g hg => ?_
      rw [hfirst g (by rw [htail]; simp [hg]), ← hzero]
      exact hj
    rw [hfresh]
    exact id

/-- The attempt that falls into a pause is made by an evaluation that looked before the pause was
begun; and none falls into a pause when the evaluations go one by one. -/
theorem attempts_in_two_runs :
    (∃ later t₀ earlier, retriedInPause.tail = later ++ ⟨1, t₀, .passed⟩ :: earlier ∧
      t₀ ≤ ⟨2, 0⟩ ∧ ⟨0, ⟨1, 0⟩, .settled (tooMany "60")⟩ ∈ later) ∧
    ∀ g ∈ oneByOne.tail, ∀ u, g.announces? = some u → u ≤ ⟨3, 0⟩ := by
  constructor
  · obtain ⟨x, hrun⟩ := run_retriedInPause
    obtain ⟨later, t₀, earlier, hlog, ht, hbegun⟩ :=
      (attempt_in_pause hrun).2.2.1 [] _ 1 ⟨2, 0⟩ sameRequest rfl
    refine ⟨later, t₀, earlier, hlog, ht, ?_⟩
    rcases hbegun _ (List.mem_cons_of_mem _ List.mem_cons_self) _ announces_onePaused
      (by decide) with hlater | ⟨between, g', u', before, rfl, hg', hle, -⟩
    · exact hlater
    · -- A pause of a minute had not ended when the other evaluation looked.
      have hmem : g' ∈ retriedInPause.tail := by
        rw [retriedInPause, List.tail_cons, hlog]
        simp
      obtain rfl := announces_retriedInPause hmem hg'
      exact absurd (Instant.le_trans hle ht) (by decide)
  · obtain ⟨x, hrun⟩ := run_oneByOne
    exact (attempt_in_pause hrun).2.2.2 [] _ 1 ⟨3, 0⟩ sameRequest rfl apart_oneByOne

/-- **Attempts do fall into pauses, and pauses are cut short.**  An evaluation that was under way makes
its second attempt in the pause that another one has begun; and a pause of a second takes the place of
one of a minute that is still on. -/
theorem not_silent :
    (¬ ∀ r ask log x, Run r ask log x → ∀ newer older i t q,
      log = newer ++ ⟨i, t, .started q⟩ :: older →
      ∀ g ∈ older, ∀ u, g.announces? = some u → u ≤ t) ∧
    ¬ ∀ r ask log h x, Run r ask (h :: log) x → ∀ u, lastEnd log = some u → h.time < u →
      ∃ u', x.pause = some u' ∧ u ≤ u' := by
  refine ⟨?_, ?_⟩
  · intro hsilent
    obtain ⟨x, hrun⟩ := run_retriedInPause
    have hle := hsilent _ _ _ _ hrun [] _ 1 ⟨2, 0⟩ sameRequest rfl _
      (List.mem_cons_of_mem _ List.mem_cons_self) _ announces_onePaused
    exact absurd hle (by decide)
  · intro hkept
    obtain ⟨x, hrun, hpause⟩ := run_cutShort
    have hlast : lastEnd cutShort.tail = some ⟨61, 0⟩ := by
      rw [lastEnd, cutShort, List.tail_cons, List.findSome?_cons_of_isNone (by rfl), onePaused,
        List.findSome?_cons, announces_onePaused]
    obtain ⟨u', hu', hle⟩ := hkept _ _ _ _ _ hrun _ hlast (by decide)
    rw [hpause] at hu'
    obtain rfl := Option.some.inj hu'
    exact absurd hle (by decide)

end Concurrent
end RemoteFlags
