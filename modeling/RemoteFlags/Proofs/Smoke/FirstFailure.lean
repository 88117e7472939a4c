import RemoteFlags.Smoke.Run

/-!
# The first failure of a run

A run makes its checks one after the other and writes down a line for each that passes.  It ends
with the first check that does not pass, or whose line does not fit in the sink, and no check after
that one is made.

## Main definitions

* `Sink.Fits`, `Sink.extend` — there is room for some bytes; the sink with these bytes.
* `lineOf`, `passLines` — what is written down for checks that passed.
* `stateAfter`, `evaluations` — what checks do and tell one after the other, whether they pass or
  not.
* `Clean` — checks that all pass and whose lines fit.
* `StopsAtFirst` — what comes of checks of which the first that fails is the last that is made.

## Main results

* `runChecks_append` — checks that pass come before the ones that follow.
* `stopsAtFirst_runChecks` — checks one after the other, whatever evaluates them.
* `stops_at_first_failure` — **a run ends with its first failure.**
-/

namespace RemoteFlags
namespace Smoke

/-! ### Bytes that fit -/

namespace Sink

/-- There is room for some bytes. -/
def Fits (k : Sink) (bs : List UInt8) : Prop :=
  ∀ room, k.room = some room → bs.length ≤ room

/-- The sink with some more bytes. -/
def extend (k : Sink) (bs : List UInt8) : Sink :=
  ⟨k.room.map (· - bs.length), k.written ++ bs⟩

variable {k : Sink} {as bs : List UInt8}

@[simp] theorem written_extend : (k.extend bs).written = k.written ++ bs := rfl

@[simp] theorem extend_nil : k.extend [] = k := by
  obtain ⟨room, written⟩ := k
  cases room <;> simp [extend]

theorem extend_extend : (k.extend as).extend bs = k.extend (as ++ bs) := by
  obtain ⟨room, written⟩ := k
  cases room <;> simp [extend, Nat.sub_sub]

theorem fits_append : k.Fits (as ++ bs) ↔ k.Fits as ∧ (k.extend as).Fits bs := by
  obtain ⟨room, written⟩ := k
  cases room with
  | none => simp [Fits, extend]
  | some room =>
    simp only [Fits, extend, Option.map_some, Option.some.injEq, forall_eq', List.length_append]
    omega

theorem writeBytes_of_fits (h : k.Fits bs) : k.writeBytes bs = (true, k.extend bs) := by
  obtain ⟨room, written⟩ := k
  cases room with
  | none => rfl
  | some room =>
    have hlength : bs.length ≤ room := h room rfl
    simp [writeBytes, extend, hlength, List.take_of_length_le hlength]

/-- A sink that runs full takes what there is room for. -/
theorem writeBytes_extend_of_lt {room : Nat} (hroom : k.room = some room) (hfits : k.Fits as)
    (h : room < (as ++ bs).length) :
    ∃ k', (k.extend as).writeBytes bs = (false, k') ∧
      k'.written = k.written ++ (as ++ bs).take room := by
  have has : as.length ≤ room := hfits room hroom
  have hbs : ¬ bs.length ≤ room - as.length := by
    rw [List.length_append] at h
    omega
  have hwrite : (k.extend as).writeBytes bs =
      (false, ⟨some (room - as.length - bs.length),
        (k.extend as).written ++ bs.take (room - as.length)⟩) := by
    simp [writeBytes, extend, hroom, hbs]
  refine ⟨_, hwrite, ?_⟩
  rw [List.take_append, List.take_of_length_le has, written_extend, List.append_assoc]

end Sink

/-! ### Checks one after the other -/

/-- A check passes by its evaluation: that reports no error, and has the expected value. -/
def Passed (p : Check × Details) : Prop :=
  p.2.code = none ∧ p.2.value.same p.1.expected = true

/-- The line of a check that passed.  A context that says something stands in parentheses. -/
def lineOf (c : Context) (p : Check × Details) : String :=
  if c.isEmpty then "PASS " ++ p.1.key ++ " == " ++ p.2.value.text ++ "\n"
  else "PASS " ++ p.1.key ++ "(" ++ c.summary ++ ") == " ++ p.2.value.text ++ "\n"

theorem passLine_eq_lineOf (c : Context) (p : Check × Details) :
    passLine c p.1.key p.2.value = lineOf c p := by
  unfold passLine lineOf
  cases c.isEmpty with
  | true => simp
  | false => simp [String.append_assoc]

/-- The lines of checks that passed. -/
def passLines (c : Context) (ps : List (Check × Details)) : List UInt8 :=
  ps.flatMap fun p => Text.utf8 (lineOf c p)

section

variable {σ : Type} (evaluate : σ → Check → Details × σ)

/-- What evaluates the flags, after some checks. -/
def stateAfter (st : σ) (checks : List Check) : σ :=
  checks.foldl (fun st check => (evaluate st check).2) st

/-- Some checks with their evaluations, each in the state that the ones before it leave. -/
def evaluations : σ → List Check → List (Check × Details)
  | _, [] => []
  | st, check :: checks =>
    (check, (evaluate st check).1) :: evaluations (evaluate st check).2 checks

@[simp] theorem stateAfter_nil (st : σ) : stateAfter evaluate st [] = st := rfl

@[simp] theorem stateAfter_cons (st : σ) (check : Check) (checks : List Check) :
    stateAfter evaluate st (check :: checks) =
      stateAfter evaluate (evaluate st check).2 checks := rfl

theorem stateAfter_concat (st : σ) (checks : List Check) (check : Check) :
    stateAfter evaluate st (checks ++ [check]) =
      (evaluate (stateAfter evaluate st checks) check).2 := by
  simp [stateAfter]

theorem evaluations_concat (st : σ) (checks : List Check) (check : Check) :
    evaluations evaluate st (checks ++ [check]) =
      evaluations evaluate st checks ++
        [(check, (evaluate (stateAfter evaluate st checks) check).1)] := by
  induction checks generalizing st with
  | nil => rfl
  | cons first checks ih => simp [evaluations, ih]

/-- Checks that all pass, and whose lines fit. -/
def Clean (c : Context) (sink : Sink) (st : σ) (checks : List Check) : Prop :=
  (∀ p ∈ evaluations evaluate st checks, Passed p) ∧
    sink.Fits (passLines c (evaluations evaluate st checks))

/-- What comes of checks of which the first that fails is the last that is made.

Each field speaks about the whole of the outcome: the result, the bytes that were written, and what
the evaluations leave. -/
structure StopsAtFirst (c : Context) (sink : Sink) (st : σ) (checks : List Check)
    (report : Report σ) : Prop where
  /-- All pass, and there is room for their lines. -/
  passes : Clean evaluate c sink st checks →
    report.result = .ok (checks.map (·.key)) ∧
      report.sink.written = sink.written ++ passLines c (evaluations evaluate st checks) ∧
      report.state = stateAfter evaluate st checks
  /-- The first one that fails reports an error or has another value than the expected one. -/
  fails : ∀ before check after, checks = before ++ check :: after →
    Clean evaluate c sink st before →
    let d := (evaluate (stateAfter evaluate st before) check).1
    ¬ Passed (check, d) →
      (∀ code, d.code = some code →
        report.result = .error (.evaluation check.key code (d.message.getD ""))) ∧
      (d.code = none → report.result = .error (.mismatch check.key d.value check.expected)) ∧
      report.sink.written = sink.written ++ passLines c (evaluations evaluate st before) ∧
      report.state = stateAfter evaluate st (before ++ [check])
  /-- The first one that fails passes, but its line does not fit. -/
  overflows : ∀ before check after, checks = before ++ check :: after →
    Clean evaluate c sink st before →
    let ps := evaluations evaluate st (before ++ [check])
    (∀ p ∈ ps, Passed p) → ∀ room, sink.room = some room → room < (passLines c ps).length →
      report.result = .error full ∧
      report.sink.written = sink.written ++ (passLines c ps).take room ∧
      report.state = stateAfter evaluate st (before ++ [check])

end

/-! ### One check -/

section

variable {σ : Type} {evaluate : σ → Check → Details × σ} {c : Context} {check : Check}
  {checks : List Check} {d : Details} {st st' : σ} {sink : Sink} {passed : List String}

theorem verdict_of_passed (h : Passed (check, d)) : verdict check d = .ok d.value := by
  obtain ⟨hcode, hsame⟩ : d.code = none ∧ d.value.same check.expected = true := h
  simp [verdict, hcode, hsame]

theorem verdict_of_code {code : ErrorCode} (h : d.code = some code) :
    verdict check d = .error (.evaluation check.key code (d.message.getD "")) := by
  simp [verdict, h]

theorem verdict_of_not_passed (h : ¬ Passed (check, d)) (hcode : d.code = none) :
    verdict check d = .error (.mismatch check.key d.value check.expected) := by
  have hsame : d.value.same check.expected = false := by
    rw [← Bool.not_eq_true]
    intro hsame
    exact h ⟨hcode, hsame⟩
  simp [verdict, hcode, hsame]

/-- A check that does not pass is the last one. -/
theorem runChecks_cons_of_error (ho : evaluate st check = (d, st')) {f : Fault}
    (hverdict : verdict check d = .error f) :
    runChecks evaluate c (check :: checks) passed sink st = ⟨.error f, sink, st'⟩ := by
  simp only [runChecks, ho, hverdict]

/-- After a check that passes and is written down come the others. -/
theorem runChecks_cons_of_fits (ho : evaluate st check = (d, st')) (hpassed : Passed (check, d))
    (hfits : sink.Fits (Text.utf8 (lineOf c (check, d)))) :
    runChecks evaluate c (check :: checks) passed sink st =
      runChecks evaluate c checks (passed ++ [check.key])
        (sink.extend (Text.utf8 (lineOf c (check, d)))) st' := by
  simp only [runChecks, ho, verdict_of_passed hpassed, Sink.write, passLine_eq_lineOf c (check, d),
    Sink.writeBytes_of_fits hfits]

/-- A check that passes but cannot be written down is the last one. -/
theorem runChecks_cons_of_full (ho : evaluate st check = (d, st')) (hpassed : Passed (check, d))
    {sink' : Sink}
    (hwrite : sink.writeBytes (Text.utf8 (lineOf c (check, d))) = (false, sink')) :
    runChecks evaluate c (check :: checks) passed sink st = ⟨.error full, sink', st'⟩ := by
  simp only [runChecks, ho, verdict_of_passed hpassed, Sink.write, passLine_eq_lineOf c (check, d),
    hwrite]

/-! ### Whole runs -/

theorem passLines_cons (p : Check × Details) (ps : List (Check × Details)) :
    passLines c (p :: ps) = Text.utf8 (lineOf c p) ++ passLines c ps := rfl

theorem passLines_concat (ps : List (Check × Details)) (p : Check × Details) :
    passLines c (ps ++ [p]) = passLines c ps ++ Text.utf8 (lineOf c p) := by
  simp [passLines]

theorem clean_cons :
    Clean evaluate c sink st (check :: checks) ↔
      let o := evaluate st check
      let line := Text.utf8 (lineOf c (check, o.1))
      Passed (check, o.1) ∧ sink.Fits line ∧ Clean evaluate c (sink.extend line) o.2 checks := by
  simp only [Clean, evaluations, List.forall_mem_cons, passLines_cons, Sink.fits_append]
  constructor
  · rintro ⟨⟨hpassed, hall⟩, hline, hlines⟩
    exact ⟨hpassed, hline, hall, hlines⟩
  · rintro ⟨hpassed, hline, hall, hlines⟩
    exact ⟨⟨hpassed, hall⟩, hline, hlines⟩

/-- Checks that pass come before the ones that follow, and these start where the former end. -/
theorem runChecks_append (h : Clean evaluate c sink st checks) (rest : List Check) :
    runChecks evaluate c (checks ++ rest) passed sink st =
      runChecks evaluate c rest (passed ++ checks.map (·.key))
        (sink.extend (passLines c (evaluations evaluate st checks)))
        (stateAfter evaluate st checks) := by
  -- Induction on the checks that pass; each leaves the keys, the sink and the state for the next.
  induction checks generalizing passed sink st with
  | nil => simp [evaluations, passLines]
  | cons check checks ih =>
    obtain ⟨hpassed, hline, hclean⟩ := clean_cons.mp h
    rw [List.cons_append, runChecks_cons_of_fits rfl hpassed hline, ih hclean,
      Sink.extend_extend, List.append_assoc, List.map_cons, List.singleton_append]
    rfl

theorem stopsAtFirst_runChecks (evaluate : σ → Check → Details × σ) (c : Context) (sink : Sink)
    (st : σ) (checks : List Check) :
    StopsAtFirst evaluate c sink st checks (runChecks evaluate c checks [] sink st) := by
  refine ⟨?passes, ?fails, ?overflows⟩
  case passes =>
    intro hclean
    have hrun : runChecks evaluate c (checks ++ []) [] sink st = _ := runChecks_append hclean []
    rw [List.append_nil, List.nil_append] at hrun
    rw [hrun]
    exact ⟨rfl, rfl, rfl⟩
  case fails =>
    rintro before check after rfl hclean d hfails
    rw [runChecks_append hclean, stateAfter_concat]
    cases hcode : d.code with
    | some code =>
      rw [runChecks_cons_of_error rfl (verdict_of_code hcode)]
      refine ⟨?_, ?_, rfl, rfl⟩
      · rintro code' ⟨⟩
        rfl
      · intro hnone
        cases hnone
    | none =>
      rw [runChecks_cons_of_error rfl (verdict_of_not_passed hfails hcode)]
      refine ⟨?_, fun _ => rfl, rfl, rfl⟩
      intro code' hsome
      cases hsome
  case overflows =>
    rintro before check after rfl hclean ps hpassed room hroom hlong
    have hps : ps = _ := evaluations_concat evaluate st before check
    have hlast : Passed (check, (evaluate (stateAfter evaluate st before) check).1) := by
      apply hpassed
      simp [hps]
    rw [hps, passLines_concat] at hlong
    obtain ⟨sink', hwrite, hwritten⟩ := Sink.writeBytes_extend_of_lt hroom hclean.2 hlong
    rw [runChecks_append hclean, runChecks_cons_of_full rfl hlast hwrite, stateAfter_concat, hps,
      passLines_concat]
    exact ⟨rfl, hwritten, rfl⟩

/-- **A run ends with its first failure.**  Whatever evaluates the flags, and in particular when a
client evaluates them with the providers of a session: if all checks pass and their lines fit, their
keys are told in order and their lines are written down.  Otherwise the first check that does not
pass is named with what is wrong, below the lines of the ones before it; or the sink is full at the
first line that does not fit, of which it takes what there is room for.  No check after that one is
made. -/
theorem stops_at_first_failure (c : Context) (checks : List Check) (sink : Sink) :
    (∀ {σ : Type} (evaluate : σ → Check → Details × σ) (st : σ),
      StopsAtFirst evaluate c sink st checks (runChecks evaluate c checks [] sink st)) ∧
    ∀ (s : Session) (k : Client),
      let report := s.check k c checks sink
      report.state.registry = s.registry ∧
        StopsAtFirst (fun ps check => k.evaluate s.registry ps check.key check.default c) c sink
          s.providers checks ⟨report.result, report.sink, report.state.providers⟩ := by
  refine ⟨fun evaluate st => stopsAtFirst_runChecks evaluate c sink st checks, ?_⟩
  intro s k report
  exact ⟨rfl, stopsAtFirst_runChecks _ c sink s.providers checks⟩

end

end Smoke
end RemoteFlags
