import RemoteFlags.Proofs.Bulk.Run
import RemoteFlags.Proofs.Equality
import RemoteFlags.Proofs.Json.TreeText
import RemoteFlags.Proofs.Smoke.FirstFailure

/-!
# What passing runs write

A run writes down the values that the server gives, not the ones that its checks expect.  Where no
double is expected this makes no difference: a value that equals an expected one is that value, so it
has the same text.  Hence whatever evaluates the flags, runs that pass write the same lines.  Doubles
are different, since the two zeros are equal and have two texts.

## Main definitions

* `FlagValue.FloatFree v` — no double occurs in a value.
* `expectedLine`, `expectedOutput` — the line of a check, and all lines, with the expected values.

## Main results

* `Tree.eq_of_same`, `FlagValue.eq_of_same` — without doubles, a value equals only itself.
* `clean_of_ok` — in a run that succeeds all checks pass, and all lines fit.
* `written_of_ok` — what one run writes.
* `output_of_floatFree` — **runs that pass write the same lines.**
-/

namespace RemoteFlags

/-! ### Values without doubles -/

namespace Json

theorem Number.eq_of_same {m : Number} {n : Int} {fits : Fits n}
    (h : m.same (.int n fits) = true) : m = .int n fits := by
  cases m with
  | int m _ =>
    obtain rfl : m = n := by simpa [same] using h
    rfl
  | float x => simp [same] at h

namespace Tree

mutual

/-- A tree without doubles equals only itself. -/
theorem eq_of_same : ∀ {s t : Tree}, t.FloatFree → s.same t = true → s = t
  | s, .null, _, h => by cases s <;> simp_all [same]
  | s, .bool b, _, h => by cases s <;> simp_all [same]
  | s, .string x, _, h => by cases s <;> simp_all [same]
  | s, .number (.int n fits), _, h => by
    cases s with
    | number m =>
      rw [same] at h
      rw [Number.eq_of_same h]
    | _ => simp [same] at h
  | s, .array ts, hfree, h => by
    cases s with
    | array ss =>
      rw [same] at h
      rw [eq_of_sameItems hfree h]
    | _ => simp [same] at h
  | s, .object ms, hfree, h => by
    cases s with
    | object ls =>
      rw [same] at h
      rw [eq_of_sameMembers hfree h]
    | _ => simp [same] at h

theorem eq_of_sameItems : ∀ {ss ts : List Tree}, FloatFreeItems ts → sameItems ss ts = true →
    ss = ts
  | [], [], _, _ => rfl
  | s :: ss, t :: ts, hfree, h => by
    rw [sameItems, Bool.and_eq_true] at h
    rw [eq_of_same hfree.1 h.1, eq_of_sameItems hfree.2 h.2]

theorem eq_of_sameMembers : ∀ {ls ms : List (String × Tree)}, FloatFreeMembers ms →
    sameMembers ls ms = true → ls = ms
  | [], [], _, _ => rfl
  | (k, s) :: ls, (k', t) :: ms, hfree, h => by
    rw [sameMembers, Bool.and_eq_true, Bool.and_eq_true, beq_iff_eq] at h
    obtain ⟨⟨rfl, hvalue⟩, hrest⟩ := h
    rw [eq_of_same hfree.1 hvalue, eq_of_sameMembers hfree.2 hrest]

end

end Tree

end Json

namespace FlagValue

/-- No double occurs in a value, nor in the JSON that it may be. -/
def FloatFree : FlagValue → Prop
  | .float _ => False
  | .object v => v.tree.FloatFree
  | _ => True

/-- A value without doubles equals only itself. -/
theorem eq_of_same {x y : FlagValue} (hfree : y.FloatFree) (h : x.same y = true) : x = y := by
  cases y with
  | float y => exact hfree.elim
  | object w =>
    cases x with
    | object v =>
      have htree : v.tree = w.tree := Json.Tree.eq_of_same hfree h
      obtain ⟨t, ht⟩ := v
      obtain rfl : t = w.tree := htree
      rfl
    | _ => simp [same] at h
  | _ => cases x <;> simp_all [same]

/-- The two zeros are equal, and have two texts. -/
example : let zero := fun sign => FlagValue.float (.finite (.zero sign))
    (zero true).same (zero false) = true ∧ (zero true).text = "-0" ∧ (zero false).text = "0" := by
  decide

end FlagValue

namespace Smoke

/-! ### The expected lines -/

/-- The line of a check that passes with the expected value.  A context that says something stands in
parentheses. -/
def expectedLine (c : Context) (check : Check) : String :=
  if c.isEmpty then "PASS " ++ check.key ++ " == " ++ check.expected.text ++ "\n"
  else "PASS " ++ check.key ++ "(" ++ c.summary ++ ") == " ++ check.expected.text ++ "\n"

/-- The lines of some checks, one after the other. -/
def expectedOutput (c : Context) (checks : List Check) : List UInt8 :=
  checks.flatMap fun check => Text.utf8 (expectedLine c check)

theorem lineOf_eq_expectedLine {p : Check × Details} (c : Context) (hfree : p.1.expected.FloatFree)
    (hpassed : Passed p) : lineOf c p = expectedLine c p.1 := by
  have hvalue : p.2.value = p.1.expected := FlagValue.eq_of_same hfree hpassed.2
  rw [lineOf, expectedLine, hvalue]

section

variable {σ : Type} {evaluate : σ → Check → Details × σ} {c : Context} {checks : List Check}
  {st : σ} {sink : Sink} {passed keys : List String}

/-- Checks that pass are written down with their expected values. -/
theorem passLines_eq_expectedOutput (c : Context)
    (hfree : ∀ check ∈ checks, check.expected.FloatFree)
    (hpassed : ∀ p ∈ evaluations evaluate st checks, Passed p) :
    passLines c (evaluations evaluate st checks) = expectedOutput c checks := by
  induction checks generalizing st with
  | nil => rfl
  | cons check checks ih =>
    obtain ⟨hfirst, hrest⟩ := List.forall_mem_cons.mp hfree
    obtain ⟨hpass, hpasses⟩ := List.forall_mem_cons.mp hpassed
    rw [evaluations, passLines_cons, ih hrest hpasses, lineOf_eq_expectedLine c hfirst hpass]
    rfl

/-! ### Runs that succeed -/

theorem Sink.writeBytes_of_not_fits {bs : List UInt8} (h : ¬ sink.Fits bs) :
    ∃ sink', sink.writeBytes bs = (false, sink') := by
  obtain ⟨room, hroom, hlong⟩ : ∃ room, sink.room = some room ∧ ¬ bs.length ≤ room := by
    simpa [Sink.Fits] using h
  refine ⟨⟨some (room - bs.length), sink.written ++ bs.take room⟩, ?_⟩
  simp [Sink.writeBytes, hroom, hlong]

/-- In a run that succeeds all checks pass, and all lines fit. -/
theorem clean_of_ok (h : (runChecks evaluate c checks passed sink st).result = .ok keys) :
    Clean evaluate c sink st checks := by
  induction checks generalizing passed sink st with
  | nil => simp [Clean, evaluations, passLines, Sink.Fits]
  | cons check checks ih =>
    have hpassed : Passed (check, (evaluate st check).1) := by
      by_contra hfails
      -- A check that does not pass ends the run with a failure.
      cases hcode : (evaluate st check).1.code with
      | some code =>
        rw [runChecks_cons_of_error rfl (verdict_of_code hcode)] at h
        cases h
      | none =>
        rw [runChecks_cons_of_error rfl (verdict_of_not_passed hfails hcode)] at h
        cases h
    have hfits : sink.Fits (Text.utf8 (lineOf c (check, (evaluate st check).1))) := by
      by_contra hlong
      obtain ⟨sink', hwrite⟩ := Sink.writeBytes_of_not_fits hlong
      rw [runChecks_cons_of_full rfl hpassed hwrite] at h
      cases h
    rw [runChecks_cons_of_fits rfl hpassed hfits] at h
    exact clean_cons.mpr ⟨hpassed, hfits, ih h⟩

/-- What a run writes, and what it tells, once it succeeds. -/
theorem written_of_ok (hfree : ∀ check ∈ checks, check.expected.FloatFree)
    (h : (runChecks evaluate c checks [] sink st).result = .ok keys) :
    keys = checks.map (·.key) ∧
      (runChecks evaluate c checks [] sink st).sink.written =
        sink.written ++ expectedOutput c checks := by
  have hclean : Clean evaluate c sink st checks := clean_of_ok h
  have hrun : runChecks evaluate c (checks ++ []) [] sink st = _ := runChecks_append hclean []
  rw [List.append_nil, List.nil_append, passLines_eq_expectedOutput c hfree hclean.1] at hrun
  rw [hrun] at h ⊢
  exact ⟨(Except.ok.inj h).symm, rfl⟩

/-- **Runs that pass write the same lines.**  When no double is expected, a run that succeeds writes
for each check in order the line with the expected value, and tells the keys of the checks, whatever
evaluates the flags.  So two runs that succeed write the same bytes and tell the same keys, through
any two clients of any two sessions: registries, providers in any state, clocks and networks may all
be different. -/
theorem output_of_floatFree (c : Context) {checks : List Check}
    (hfree : ∀ check ∈ checks, check.expected.FloatFree) :
    (∀ {σ : Type} (evaluate : σ → Check → Details × σ) (st : σ) (sink : Sink) (keys : List String),
      (runChecks evaluate c checks [] sink st).result = .ok keys →
        keys = checks.map (·.key) ∧
        (runChecks evaluate c checks [] sink st).sink.written =
          sink.written ++ expectedOutput c checks) ∧
    ∀ (s s' : Session) (k k' : Client) (sink sink' : Sink) (keys keys' : List String),
      (s.check k c checks sink).result = .ok keys →
      (s'.check k' c checks sink').result = .ok keys' →
        keys = keys' ∧ keys = checks.map (·.key) ∧
        (s.check k c checks sink).sink.written = sink.written ++ expectedOutput c checks ∧
        (s'.check k' c checks sink').sink.written = sink'.written ++ expectedOutput c checks := by
  have hsession : ∀ (s : Session) (k : Client) (sink : Sink) (keys : List String),
      (s.check k c checks sink).result = .ok keys → keys = checks.map (·.key) ∧
        (s.check k c checks sink).sink.written = sink.written ++ expectedOutput c checks := by
    intro s k sink keys hok
    unfold Session.check at hok ⊢
    exact written_of_ok hfree hok
  refine ⟨fun evaluate st sink keys hok => written_of_ok hfree hok, ?_⟩
  intro s s' k k' sink sink' keys keys' hok hok'
  obtain ⟨hkeys, hwritten⟩ := hsession s k sink keys hok
  obtain ⟨hkeys', hwritten'⟩ := hsession s' k' sink' keys' hok'
  exact ⟨hkeys.trans hkeys'.symm, hkeys, hwritten, hwritten'⟩

end

/-! ### Two runs of one check -/

/-- An object with its members in order. -/
def limits : Json.Tree :=
  .object [("a", .array [.number (.int 1 (by decide)), .number (.int (-2) (by decide))]), ("b", .null)]

theorem normal_limits : limits.normal = limits := rfl

/-- A check of a flag whose value is an object. -/
def limitsCheck : Check where
  key := "limits"
  default := .object (.ofTree (.object []))
  expected := .object (.ofTree limits)

/-- A client whose provider computes the expected value. -/
def steadyClient : Client :=
  .pinned (.computed "steady" fun _ _ => .ok ⟨limitsCheck.expected, some "usual", .static, ∅⟩)

/-- A server that tells the members in another order, and one of them twice. -/
def untidyReply : Nat → Http.Reply := fun _ =>
  .answered { status := 200, body := Text.utf8 ("\x7b\"flags\":[\x7b\"key\":\"limits\",\"value\":" ++
    "\x7b\"b\":true,\"a\":[1,-2],\"b\":null\x7d\x7d]\x7d") }

/-- A session with a provider that asks that server. -/
def untidySession : Session where
  providers :=
    { remotes := [(Bulk.minuteRemote, .initial ⟨0, 0⟩)]
      world := ⟨{ reply := untidyReply }, { reading := fun _ => ⟨0, 0⟩ }⟩ }

/-- The two write the same line, though only one of them asks a server. -/
theorem output_of_limitsCheck :
    (∀ check ∈ [limitsCheck], check.expected.FloatFree) ∧
      (untidySession.check (.pinned (.remote 0)) defaultContext [limitsCheck] {}).sink.written =
        (untidySession.check steadyClient defaultContext [limitsCheck] {}).sink.written := by
  have hfree : ∀ check ∈ [limitsCheck], check.expected.FloatFree := by
    intro check hcheck
    obtain rfl := List.mem_singleton.mp hcheck
    show limits.normal.FloatFree
    rw [normal_limits]
    simp [limits, Json.Tree.FloatFree, Json.Tree.FloatFreeMembers, Json.Tree.FloatFreeItems]
  have huntidy : (untidySession.check (.pinned (.remote 0)) defaultContext [limitsCheck]
      {}).result.isOk = true := by decide +kernel
  have hsteady : (untidySession.check steadyClient defaultContext [limitsCheck]
      {}).result.isOk = true := by decide +kernel
  obtain ⟨keys, hkeys⟩ := exists_ok_of_isOk huntidy
  obtain ⟨keys', hkeys'⟩ := exists_ok_of_isOk hsteady
  obtain ⟨-, -, hwritten, hwritten'⟩ := (output_of_floatFree defaultContext hfree).2 untidySession
    untidySession (.pinned (.remote 0)) steadyClient {} {} keys keys' hkeys hkeys'
  exact ⟨hfree, hwritten.trans hwritten'.symm⟩

end Smoke

end RemoteFlags
