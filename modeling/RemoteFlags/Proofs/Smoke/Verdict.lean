import RemoteFlags.Smoke.Run

/-!
# What checks want

A check compares the value of a flag with the expected one, after the value was converted to the type
that is asked for.  For the scalars that the default checks ask for, exactly one JSON value passes.

## Main definitions

* `Check.Wants check t` — a check passes for the JSON value `t` and for no other.
* `defaultPlan` — the default checks with the values that they want.
* `Fault.Names key f` — a failure of the check of a flag.

## Main results

* `wants_defaultPlan` — the default checks want these values.
* `verdict_of_wants` — the verdict on a value.
-/

namespace RemoteFlags

/-! ### Scalars -/

/-- A type of scalars that no other value is converted to. -/
def FlagType.IsPlain (ty : FlagType) : Prop := ty ≠ .float ∧ ty ≠ .object

theorem FlagType.accepts?_eq_some_iff {ty : FlagType} (h : ty.IsPlain) (v x : FlagValue) :
    ty.accepts? v = some x ↔ v.type = ty ∧ x = v := by
  obtain ⟨hfloat, hobject⟩ := h
  cases ty <;> cases v <;> simp_all [accepts?, FlagValue.type, eq_comm]

namespace FlagValue

/-- Scalars other than doubles are equal only to themselves. -/
theorem same_iff {x y : FlagValue} (h : y.type.IsPlain) : x.same y = true ↔ x = y := by
  obtain ⟨hfloat, hobject⟩ := h
  cases x <;> cases y <;> simp_all [same, type]

theorem ofJson_eq_bool_iff {v : Json.Value} {b : Bool} : ofJson v = .bool b ↔ v.tree = .bool b := by
  unfold ofJson
  cases v.tree with
  | number n => cases n <;> simp [ofNumber]; split <;> simp
  | _ => simp

theorem ofJson_eq_string_iff {v : Json.Value} {s : String} :
    ofJson v = .string s ↔ v.tree = .string s := by
  unfold ofJson
  cases v.tree with
  | number n => cases n <;> simp [ofNumber]; split <;> simp
  | _ => simp

/-- Integers of 64 bits are what is written as such. -/
theorem ofJson_eq_int_iff {v : Json.Value} {n : Int} (hfits : Json.Fits n) (hn : n < 2 ^ 63) :
    ofJson v = .int n ↔ v.tree = .number (.int n hfits) := by
  unfold ofJson
  cases v.tree with
  | number m =>
    cases m with
    | float x => simp [ofNumber]
    | int m h =>
      simp only [ofNumber]
      split
      · simp
      · simp; omega
  | _ => simp

end FlagValue

/-! ### What checks want -/

namespace Smoke

/-- A check passes for one JSON value and for no other. -/
def Check.Wants (check : Check) (t : Json.Tree) : Prop :=
  ∀ (v : Json.Value) (x : FlagValue),
    (check.default.type.accepts? (.ofJson v) = some x ∧ x.same check.expected = true) ↔
      (v.tree = t ∧ x = check.expected)

/-- A check for a scalar wants the JSON value that stands for it. -/
theorem wants_of_isPlain {check : Check} {t : Json.Tree} (hplain : check.expected.type.IsPlain)
    (htype : check.default.type = check.expected.type)
    (htree : ∀ v : Json.Value, .ofJson v = check.expected ↔ v.tree = t) : check.Wants t := by
  intro v x
  rw [htype, FlagType.accepts?_eq_some_iff hplain, FlagValue.same_iff hplain, ← htree]
  constructor
  · rintro ⟨⟨-, rfl⟩, hx⟩
    exact ⟨hx, hx⟩
  · rintro ⟨hv, rfl⟩
    exact ⟨⟨by rw [hv], hv.symm⟩, rfl⟩

/-- The default checks with the values that they want. -/
def defaultPlan : List (Check × Json.Tree) :=
  [(.boolean "FF-feature-y" false true, .bool true),
    (.integer "FF-api-timeout" 2000 5000, .number (.int 5000 (by decide))),
    (.string "FF-log-level" "info" "debug", .string "debug")]

theorem defaultPlan_checks : defaultPlan.map (·.1) = defaultChecks := rfl

theorem wants_defaultPlan : ∀ p ∈ defaultPlan, p.1.Wants p.2 := by
  intro p hp
  simp only [defaultPlan, List.mem_cons, List.not_mem_nil, or_false] at hp
  rcases hp with rfl | rfl | rfl
  · exact wants_of_isPlain ⟨by decide, by decide⟩ rfl fun v => FlagValue.ofJson_eq_bool_iff
  · exact wants_of_isPlain ⟨by decide, by decide⟩ rfl fun v =>
      FlagValue.ofJson_eq_int_iff _ (by decide)
  · exact wants_of_isPlain ⟨by decide, by decide⟩ rfl fun v => FlagValue.ofJson_eq_string_iff

/-! ### Verdicts -/

/-- The failure of the check of a flag. -/
def Fault.Names (key : String) : Fault → Prop
  | .mismatch k _ _ => k = key
  | .evaluation k _ _ => k = key
  | _ => False

theorem verdict_of_error (check : Check) (e : FlagError) :
    ∃ f, verdict check (Details.ofResult check.key check.default (.error e)) = .error f ∧
      f.Names check.key :=
  ⟨_, rfl, rfl⟩

/-- The verdict on an evaluation with a value, whose JSON is the wanted one or is not. -/
theorem verdict_of_wants {check : Check} {t : Json.Tree} (h : check.Wants t) {v : Json.Value}
    {res : Resolution} (hres : res.value = .ofJson v) :
    (v.tree = t ∧
      verdict check (Details.ofResult check.key check.default (.ok res)) = .ok check.expected) ∨
    (v.tree ≠ t ∧
      ∃ f, verdict check (Details.ofResult check.key check.default (.ok res)) = .error f ∧
        f.Names check.key) := by
  have hiff := h v
  rw [← hres] at hiff
  simp only [Details.ofResult]
  cases haccepts : check.default.type.accepts? res.value with
  | none =>
    -- The wanted value is never of another type.
    have hv : v.tree ≠ t := by
      intro hv
      have := ((hiff check.expected).mpr ⟨hv, rfl⟩).1
      simp [haccepts] at this
    exact .inr ⟨hv, _, rfl, rfl⟩
  | some x =>
    cases hsame : x.same check.expected with
    | true =>
      obtain ⟨hv, rfl⟩ := (hiff x).mp ⟨haccepts, hsame⟩
      exact .inl ⟨hv, by simp [verdict, hsame]⟩
    | false =>
      have hv : v.tree ≠ t := by
        intro hv
        obtain ⟨hx, hequal⟩ := (hiff check.expected).mpr ⟨hv, rfl⟩
        obtain rfl : x = check.expected := Option.some.inj (haccepts.symm.trans hx)
        simp [hsame] at hequal
      exact .inr ⟨hv, .mismatch check.key x check.expected, by simp [verdict, hsame], rfl⟩

end Smoke

end RemoteFlags
