import RemoteFlags.Client
import RemoteFlags.Proofs.Json.Numeral

/-!
# Typed evaluations

A caller asks for a value of the type of the default.  Each type takes the JSON values of its own
kind and no others, apart from doubles, which take integers too; `null` is of no type.  A value that
is taken is given to the caller as it is, and otherwise the caller gets the default.

## Main definitions

* `FlagType.Takes` — the values that a type takes, and what it makes of them.

## Main results

* `FlagType.accepts?_ofJson_iff` — the conversion is the one that `FlagType.Takes` describes.
* `FlagValue.ofNumber_eq` — every number is an integer of 64 bits, or else a double, or else JSON.
* `FlagValue.ofNumber_ne_object` — the last of the three never happens.
* `Client.evaluate_of_json` — **what a typed evaluation makes of a JSON value.**
-/

namespace RemoteFlags

/-! ### Numbers -/

theorem Json.Number.double?_of_int64? {n : Json.Number} {i : Int} (h : n.int64? = some i) :
    n.double? = some (.ofInt i) := by
  cases n with
  | float x => exact nomatch h
  | int n fits => rw [(Json.Number.int64?_int.mp h).1.symm, Json.Number.double?]

namespace FlagValue

theorem ofNumber_of_int64? {n : Json.Number} {i : Int} (h : n.int64? = some i) :
    ofNumber n = .int i := by
  cases n with
  | float x => exact nomatch h
  | int n fits =>
    obtain ⟨rfl, hi⟩ := Json.Number.int64?_int.mp h
    rw [ofNumber, if_pos hi]

theorem ofNumber_of_double? {n : Json.Number} {x : Double} (h : n.int64? = none)
    (hx : n.double? = some x) : ofNumber n = .float x := by
  cases n with
  | float y => exact Option.some.inj hx ▸ rfl
  | int n fits =>
    have hn : ¬ n < 2 ^ 63 := fun hn =>
      Option.some_ne_none n (h ▸ (Json.Number.int64?_int.mpr ⟨rfl, hn⟩).symm)
    rw [ofNumber, if_neg hn]
    exact Option.some.inj hx ▸ rfl

/-- A number is an integer of 64 bits, or else a double, or else it stays JSON. -/
theorem ofNumber_eq (n : Json.Number) :
    ofNumber n = match n.int64?, n.double? with
      | some i, _ => .int i
      | none, some x => .float x
      | none, none => .object ⟨.number n, trivial⟩ := by
  cases hi : n.int64? with
  | some i => exact ofNumber_of_int64? hi
  | none =>
    obtain ⟨x, hx⟩ := Option.isSome_iff_exists.mp n.isSome_double?
    rw [ofNumber_of_double? hi hx, hx]

/-- No number ever stays JSON. -/
theorem ofNumber_ne_object (n : Json.Number) (w : Json.Value) : ofNumber n ≠ .object w := by
  obtain ⟨x, hx⟩ := Option.isSome_iff_exists.mp n.isSome_double?
  cases hi : n.int64? with
  | some i => rw [ofNumber_of_int64? hi]; exact nofun
  | none => rw [ofNumber_of_double? hi hx]; exact nofun

theorem ofJson_of_number {v : Json.Value} {n : Json.Number} (h : v.tree = .number n) :
    ofJson v = ofNumber n := by
  rw [ofJson, h]

/-- What stays JSON is `null` or an array or an object. -/
theorem eq_of_ofJson_eq_object {v w : Json.Value} (h : ofJson v = .object w) :
    w = v ∧ (v.tree = .null ∨ (∃ ts, v.tree = .array ts) ∨ ∃ ms, v.tree = .object ms) := by
  cases hv : v.tree with
  | null =>
    rw [ofJson, hv] at h
    exact ⟨(FlagValue.object.inj h).symm, .inl rfl⟩
  | array ts =>
    rw [ofJson, hv] at h
    exact ⟨(FlagValue.object.inj h).symm, .inr (.inl ⟨ts, rfl⟩)⟩
  | object ms =>
    rw [ofJson, hv] at h
    exact ⟨(FlagValue.object.inj h).symm, .inr (.inr ⟨ms, rfl⟩)⟩
  | number n =>
    rw [ofJson_of_number hv] at h
    exact absurd h (ofNumber_ne_object n w)
  | bool b =>
    rw [ofJson, hv] at h
    exact nomatch h
  | string s =>
    rw [ofJson, hv] at h
    exact nomatch h

end FlagValue

/-! ### Types -/

/-- The JSON values that a type takes, with what it makes of them. -/
inductive FlagType.Takes (v : Json.Value) : FlagType → FlagValue → Prop
  /-- A truth value. -/
  | boolean {b : Bool} (h : v.tree = .bool b) : Takes v .boolean (.bool b)
  /-- A number that is stored as an integer of 64 bits. -/
  | integer {n : Json.Number} {i : Int} (h : v.tree = .number n) (hi : n.int64? = some i) :
      Takes v .integer (.int i)
  /-- Any number. -/
  | float {n : Json.Number} {x : Double} (h : v.tree = .number n) (hx : n.double? = some x) :
      Takes v .float (.float x)
  /-- A string. -/
  | string {s : String} (h : v.tree = .string s) : Takes v .string (.string s)
  /-- An array. -/
  | array {ts : List Json.Tree} (h : v.tree = .array ts) : Takes v .object (.object v)
  /-- An object. -/
  | object {ms : List (String × Json.Tree)} (h : v.tree = .object ms) : Takes v .object (.object v)

namespace FlagType

variable {v : Json.Value} {ty : FlagType} {x : FlagValue}

theorem accepts?_of_takes (h : ty.Takes v x) : ty.accepts? (.ofJson v) = some x := by
  cases h with
  | integer h hi => rw [FlagValue.ofJson_of_number h, FlagValue.ofNumber_of_int64? hi, accepts?]
  | @float n x h hx =>
    rw [FlagValue.ofJson_of_number h]
    cases hi : n.int64? with
    | some i =>
      rw [Json.Number.double?_of_int64? hi] at hx
      rw [FlagValue.ofNumber_of_int64? hi, accepts?, Option.some.inj hx]
    | none => rw [FlagValue.ofNumber_of_double? hi hx, accepts?]
  | boolean h | string h | array h | object h =>
    rw [FlagValue.ofJson, h]
    simp only [accepts?, Json.Value.isCompound, h, if_true]

theorem takes_of_accepts? (h : ty.accepts? (.ofJson v) = some x) : ty.Takes v x := by
  cases hv : v.tree with
  | number n =>
    rw [FlagValue.ofJson_of_number hv] at h
    cases hi : n.int64? with
    | some i =>
      rw [FlagValue.ofNumber_of_int64? hi] at h
      cases ty with
      | integer => exact Option.some.inj h ▸ .integer hv hi
      | float => exact Option.some.inj h ▸ .float hv (Json.Number.double?_of_int64? hi)
      | _ => exact nomatch h
    | none =>
      obtain ⟨x, hx⟩ := Option.isSome_iff_exists.mp n.isSome_double?
      rw [FlagValue.ofNumber_of_double? hi hx] at h
      cases ty with
      | float => exact Option.some.inj h ▸ .float hv hx
      | _ => exact nomatch h
  | null =>
    rw [FlagValue.ofJson, hv] at h
    cases ty <;> simp [accepts?, Json.Value.isCompound, hv] at h
  | bool b =>
    rw [FlagValue.ofJson, hv] at h
    cases ty with
    | boolean => exact Option.some.inj h ▸ .boolean hv
    | _ => exact nomatch h
  | string s =>
    rw [FlagValue.ofJson, hv] at h
    cases ty with
    | string => exact Option.some.inj h ▸ .string hv
    | _ => exact nomatch h
  | array ts =>
    rw [FlagValue.ofJson, hv] at h
    cases ty with
    | object =>
      obtain rfl : FlagValue.object v = x := by simpa [accepts?, Json.Value.isCompound, hv] using h
      exact .array hv
    | _ => exact nomatch h
  | object ms =>
    rw [FlagValue.ofJson, hv] at h
    cases ty with
    | object =>
      obtain rfl : FlagValue.object v = x := by simpa [accepts?, Json.Value.isCompound, hv] using h
      exact .object hv
    | _ => exact nomatch h

/-- The conversion to a type takes what the type takes. -/
theorem accepts?_ofJson_iff : ty.accepts? (.ofJson v) = some x ↔ ty.Takes v x :=
  ⟨takes_of_accepts?, accepts?_of_takes⟩

/-- Only `null` is of no type. -/
theorem takes_none_iff : (∀ ty x, ¬ FlagType.Takes v ty x) ↔ v.tree = .null := by
  constructor
  · intro h
    cases hv : v.tree with
    | null => rfl
    | bool b => exact absurd (.boolean hv) (h _ _)
    | number n =>
      obtain ⟨x, hx⟩ := Option.isSome_iff_exists.mp n.isSome_double?
      exact absurd (.float hv hx) (h _ _)
    | string s => exact absurd (.string hv) (h _ _)
    | array ts => exact absurd (.array hv) (h _ _)
    | object ms => exact absurd (.object hv) (h _ _)
  · intro hv ty x h
    cases h with
    | boolean h | integer h | float h | string h | array h | object h => rw [hv] at h; exact nomatch h

/-- The numerals whose numbers are integers for callers. -/
theorem takes_integer_iff {n : Json.Numeral} {m : Json.Number} (hn : n.toNumber? = some m)
    (hv : v.tree = .number m) (i : Int) :
    FlagType.Takes v .integer (.int i) ↔
      n.fraction = none ∧ n.exponent = none ∧ n.wholeValue = i ∧ -2 ^ 63 ≤ i ∧ i < 2 ^ 63 ∧
        ¬ (n.negative = true ∧ i = 0) := by
  rw [← Json.Numeral.int64?_toNumber?, hn, Option.bind_some]
  constructor
  · intro h
    cases h with
    | integer h hi =>
      rw [hv] at h
      exact Json.Tree.number.inj h ▸ hi
  · exact fun hi => .integer hv hi

end FlagType

/-! ### Evaluations -/

theorem Details.ofResult_of_takes {key : String} {default x : FlagValue} {r : Resolution}
    {v : Json.Value} (hr : r.value = .ofJson v) (h : default.type.Takes v x) :
    Details.ofResult key default (.ok r) =
      ⟨key, x, r.variant, r.reason, none, none, r.metadata⟩ := by
  rw [Details.ofResult, hr, FlagType.accepts?_of_takes h]

theorem Details.ofResult_of_not_takes {key : String} {default : FlagValue} {r : Resolution}
    {v : Json.Value} (hr : r.value = .ofJson v) (h : ∀ x, ¬ default.type.Takes v x) :
    Details.ofResult key default (.ok r) =
      ⟨key, default, none, .error, some .typeMismatch, some ("Type mismatch: " ++
        ("flag '" ++ key ++ "' resolved to a " ++ (FlagValue.ofJson v).type.name ++ " value")), ∅⟩ := by
  have hnone : default.type.accepts? (.ofJson v) = none :=
    Option.eq_none_iff_forall_ne_some.mpr fun x hx => h x (FlagType.takes_of_accepts? hx)
  rw [Details.ofResult, hr, hnone]
  rfl

/-- **What a typed evaluation makes of a JSON value.**  It succeeds iff the type of the default takes
the value, and then gives the caller what the type makes of it, with variant, reason and metadata of
the resolution.  Otherwise the caller gets the default, and is told that the type is another one.
Only `null` is of no type.  Integers are the numbers of 64 bits that are written without point and
exponent, other than `-0`; every number has a double, so it never comes to the last branch of
`FlagValue.ofNumber_eq`; and no truth value, string or number ever stays JSON. -/
theorem Client.evaluate_of_json {k : Client} {g : Registry} {ps : Providers} {key : String}
    {default : FlagValue} {c : Context} {r : Resolution} {v : Json.Value}
    (hr : (ps.resolve (k.provider g) key (k.effectiveContext g c)).1 = .ok r)
    (hv : r.value = .ofJson v) :
    let d := (k.evaluate g ps key default c).1
    (d.code = none ↔ ∃ x, default.type.Takes v x) ∧
    (∀ x, default.type.Takes v x → d = ⟨key, x, r.variant, r.reason, none, none, r.metadata⟩) ∧
    ((∀ x, ¬ default.type.Takes v x) →
      ∃ text, d = ⟨key, default, none, .error, some .typeMismatch, some text, ∅⟩) ∧
    ((∀ ty x, ¬ FlagType.Takes v ty x) ↔ v.tree = .null) ∧
    (∀ n m, Json.Numeral.toNumber? n = some m → v.tree = .number m → ∀ i,
      FlagType.Takes v .integer (.int i) ↔
        n.fraction = none ∧ n.exponent = none ∧ n.wholeValue = i ∧ -2 ^ 63 ≤ i ∧ i < 2 ^ 63 ∧
          ¬ (n.negative = true ∧ i = 0)) ∧
    (∀ m, v.tree = .number m → ∃ x, m.double? = some x) ∧
    ∀ w, FlagValue.ofJson v = .object w →
      w = v ∧ (v.tree = .null ∨ (∃ ts, v.tree = .array ts) ∨ ∃ ms, v.tree = .object ms) := by
  intro d
  have hd : d = Details.ofResult key default (.ok r) := by rw [← hr]; rfl
  have htaken : ∀ x, default.type.Takes v x →
      d = ⟨key, x, r.variant, r.reason, none, none, r.metadata⟩ := fun x hx =>
    hd.trans (Details.ofResult_of_takes hv hx)
  have hrefused : (∀ x, ¬ default.type.Takes v x) →
      ∃ text, d = ⟨key, default, none, .error, some .typeMismatch, some text, ∅⟩ := fun h =>
    ⟨_, hd.trans (Details.ofResult_of_not_takes hv h)⟩
  refine ⟨⟨fun hcode => ?_, fun ⟨x, hx⟩ => congrArg Details.code (htaken x hx)⟩, htaken, hrefused,
    FlagType.takes_none_iff, fun n m hn hm i => FlagType.takes_integer_iff hn hm i,
    fun m _ => Option.isSome_iff_exists.mp m.isSome_double?, fun w => FlagValue.eq_of_ofJson_eq_object⟩
  refine Classical.byContradiction fun hnone => ?_
  obtain ⟨text, htext⟩ := hrefused (not_exists.mp hnone)
  rw [htext] at hcode
  exact nomatch hcode

/-- The number five, as JSON. -/
def five : Json.Value := ⟨.number (.int 5 (by decide)), trivial⟩

/-- The resolution of a flag to five. -/
def resolvedFive : Resolution := ⟨.ofJson five, some "on", .static, ∅⟩

/-- A client of a provider that resolves every flag to five. -/
def fiveClient : Client := .pinned (.computed "Five" fun _ _ => .ok resolvedFive)

/-- No remote providers, and a world in which nothing happens. -/
def noProviders : Providers := { world := ⟨.offline, { reading := fun _ => ⟨0, 0⟩ }⟩ }

/-- Who asks for an integer gets five, and who asks for a truth value gets the default. -/
theorem evaluate_of_five :
    (fiveClient.evaluate .empty noProviders "a" (.int 0) ∅).1 =
      ⟨"a", .int 5, some "on", .static, none, none, ∅⟩ ∧
    ∃ text, (fiveClient.evaluate .empty noProviders "a" (.bool true) ∅).1 =
      ⟨"a", .bool true, none, .error, some .typeMismatch, some text, ∅⟩ := by
  have hresolved : (noProviders.resolve (fiveClient.provider .empty) "a"
      (fiveClient.effectiveContext .empty ∅)).1 = .ok resolvedFive := rfl
  have hfive : resolvedFive.value = .ofJson five := rfl
  have htaken : (FlagValue.int 0).type.Takes five (.int 5) := .integer rfl rfl
  have hrefused : ∀ x, ¬ (FlagValue.bool true).type.Takes five x := by
    intro x hx
    cases hx with
    | boolean h => exact nomatch h
  exact ⟨(Client.evaluate_of_json hresolved hfive).2.1 _ htaken,
    (Client.evaluate_of_json hresolved hfive).2.2.1 hrefused⟩

end RemoteFlags
