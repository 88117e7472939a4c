import RemoteFlags.Proofs.Json.Reading

/-!
# What is read of a record

A record is written as an object or as an array.  Either way every field has its occurrences: the
values of the members with its name, or the item in its place.  Whatever the order of the members
and whatever other members there are, reading a record reads the only occurrence of each field that
has one.

## Main definitions

* `Outline.valuesNamed`, `Outline.field` — the occurrences of a field.
* `Outline.Given` — what the occurrences of a field that may be left out say.
* `Outline.IsField` — a step takes in the members of a field.

## Main results

* `Outline.IsField.slot_takeMembers` — **a field is left alone, or read from its only occurrence.**
* `Outline.needItem_eq_ok_iff`, `Outline.mayItem_eq_ok_iff` — the items of a record.
-/

namespace RemoteFlags.Json

namespace Outline

/-! ### Occurrences -/

/-- The values of the members with a name, in their order. -/
def valuesNamed (name : String) : List (Except Fault String × Outline) → List Outline
  | [] => []
  | (.ok n, o) :: ms => if n = name then o :: valuesNamed name ms else valuesNamed name ms
  | (.error _, _) :: ms => valuesNamed name ms

/-- The occurrences of the field of a record with a place and a name. -/
def field (index : Nat) (name : String) : Outline → List Outline
  | .object ms _ => valuesNamed name ms
  | .array os _ => os[index]?.toList
  | _ => []

/-- An object, or an array of at most `n` items, without a fault at its end. -/
def IsRecord (n : Nat) : Outline → Prop
  | .object _ ending => ending = .closed
  | .array os ending => os.length ≤ n ∧ ending = .closed
  | _ => False

/-- What the occurrences of a field that may be left out say, when `P` relates a value to what it
says: `null` says as little as no occurrence. -/
inductive Given {α : Type} (P : Outline → α → Prop) : List Outline → Option α → Prop
  /-- The field does not occur. -/
  | missing : Given P [] none
  /-- The field is `null`. -/
  | null : Given P [.null] none
  /-- The field has a value. -/
  | once {o : Outline} {a : α} (h : P o a) : Given P [o] (some a)

theorem Given.length_le {α : Type} {P : Outline → α → Prop} {os : List Outline} {a : Option α}
    (h : Given P os a) : os.length ≤ 1 := by
  cases h with
  | missing => exact Nat.zero_le _
  | null => exact Nat.le_refl _
  | once => exact Nat.le_refl _

/-- A value is a string. -/
def IsText (o : Outline) (s : String) : Prop := o = .string s

/-- A value is an object; the last member of a name counts. -/
def IsMap (o : Outline) (m : SortedMap Value) : Prop :=
  ∃ ms, o = .ofTree (.object ms) ∧ m = SortedMap.ofList (ms.map fun e => (e.1, Value.ofTree e.2))

@[simp] theorem valuesNamed_cons_self (name : String) (o : Outline)
    (ms : List (Except Fault String × Outline)) :
    valuesNamed name ((.ok name, o) :: ms) = o :: valuesNamed name ms := if_pos rfl

theorem valuesNamed_cons_of_ne {name name' : String} (h : name' ≠ name) (o : Outline)
    (ms : List (Except Fault String × Outline)) :
    valuesNamed name ((.ok name', o) :: ms) = valuesNamed name ms := if_neg h

/-! ### Reading one value -/

theorem toText_eq_ok_iff {o : Outline} {s : String} : o.toText = .ok s ↔ IsText o s := by
  constructor
  · intro h
    cases o with
    | string t => exact congrArg _ (Except.ok.inj h)
    | _ => exact nomatch h
  · rintro rfl
    rfl

theorem toValue_eq_ok_iff {room : Nat} {o : Outline} {v : Value} :
    o.toValue room = .ok v ↔ ∃ t : Tree, o = .ofTree t ∧ t.height ≤ room - 1 ∧ Value.ofTree t = v := by
  simp only [toValue, map_eq_ok_iff, toTree_eq_ok_iff, and_assoc]

theorem isMap_of_toMap {room : Nat} {o : Outline} {m : SortedMap Value}
    (h : o.toMap room = .ok m) : IsMap o m := by
  cases o with
  | object ms ending =>
    obtain ⟨room, -, h⟩ := bind_eq_ok_iff.mp h
    obtain ⟨ts, hts, ⟨⟩⟩ := bind_eq_ok_iff.mp h
    obtain ⟨rfl, rfl, -⟩ := eq_ofMembers_of_toMembers room ms ending hts
    exact ⟨ts, rfl, rfl⟩
  | _ => exact nomatch h

/-- Reading a value that may be `null`. -/
theorem given_of_optional {α : Type} {read : Outline → Except Error α} {P : Outline → α → Prop}
    (hread : ∀ {o a}, read o = .ok a → P o a) {o : Outline} {a : Option α}
    (h : o.optional read = .ok a) : Given P [o] a := by
  by_cases hnull : o = .null
  · subst hnull
    obtain rfl := Except.ok.inj h
    exact .null
  · have hsome : o.optional read = (read o).map some := by
      cases o with
      | null => exact absurd rfl hnull
      | _ => rfl
    rw [hsome] at h
    obtain ⟨b, hb, rfl⟩ := map_eq_ok_iff.mp h
    exact .once (hread hb)

/-! ### The members of an object -/

section

variable {σ α : Type} {step : σ → String → Outline → Except Error σ} {s s' : σ}

theorem takeMembers_cons_eq_ok_iff {name : String} {o : Outline}
    {ms : List (Except Fault String × Outline)} {ending : Ending} :
    takeMembers step s ((.ok name, o) :: ms) ending = .ok s' ↔
      ∃ s₁, step s name o = .ok s₁ ∧ takeMembers step s₁ ms ending = .ok s' :=
  bind_eq_ok_iff

theorem closed_of_takeMembers {ms : List (Except Fault String × Outline)} {ending : Ending}
    (h : takeMembers step s ms ending = .ok s') : ending = .closed := by
  induction ms generalizing s with
  | nil =>
    cases ending with
    | closed => rfl
    | cut => exact nomatch h
  | cons m ms ih =>
    obtain ⟨name | name, o⟩ := m
    · exact nomatch h
    · obtain ⟨s₁, -, hrest⟩ := takeMembers_cons_eq_ok_iff.mp h
      exact ih hrest

theorem setField_eq_ok_iff {name : String} {old slot : Option α} {read : Except Error α} :
    setField name old read = .ok slot ↔ old = none ∧ ∃ a, read = .ok a ∧ slot = some a := by
  cases old with
  | some a => exact ⟨nofun, fun h => nomatch h.1⟩
  | none => simp only [setField, map_eq_ok_iff, true_and, eq_comm (a := slot)]

/-- Setting a field and going on with it. -/
theorem bind_setField_eq_ok_iff {β : Type} {name : String} {old : Option α} {read : Except Error α}
    {f : Option α → β} {b : β} :
    (do return f (← setField name old read) : Except Error β) = .ok b ↔
      old = none ∧ ∃ a, read = .ok a ∧ b = f (some a) := by
  rw [bind_eq_ok_iff]
  constructor
  · rintro ⟨slot, hset, ⟨⟩⟩
    obtain ⟨hold, a, ha, rfl⟩ := setField_eq_ok_iff.mp hset
    exact ⟨hold, a, ha, rfl⟩
  · rintro ⟨hold, a, ha, rfl⟩
    exact ⟨some a, setField_eq_ok_iff.mpr ⟨hold, a, ha, rfl⟩, rfl⟩

/-- Taking in a member named `name` needs an empty `slot` and fills it with what `read` makes of the
value; other members leave the slot as it is. -/
structure IsField (step : σ → String → Outline → Except Error σ) (name : String)
    (slot : σ → Option α) (read : Outline → Except Error α) : Prop where
  /-- The members of the field. -/
  own {s s' : σ} {o : Outline} : step s name o = .ok s' →
    slot s = none ∧ ∃ a, read o = .ok a ∧ slot s' = some a
  /-- The other members. -/
  other {s s' : σ} {name' : String} {o : Outline} : name' ≠ name → step s name' o = .ok s' →
    slot s' = slot s

namespace IsField

variable {name : String} {slot : σ → Option α} {read : Outline → Except Error α}
  {ms : List (Except Fault String × Outline)} {ending : Ending}

/-- **A field is left alone, or read from its only occurrence.** -/
theorem slot_takeMembers (hfield : IsField step name slot read)
    (h : takeMembers step s ms ending = .ok s') :
    (valuesNamed name ms = [] ∧ slot s' = slot s) ∨
      slot s = none ∧ ∃ o a, valuesNamed name ms = [o] ∧ read o = .ok a ∧ slot s' = some a := by
  -- Induction on the members: after the first occurrence the slot is full, which leaves the first
  -- alternative for the rest.
  induction ms generalizing s with
  | nil =>
    cases ending with
    | closed => exact .inl ⟨rfl, congrArg slot (Except.ok.inj h).symm⟩
    | cut => exact nomatch h
  | cons m ms ih =>
    obtain ⟨name' | name', o⟩ := m
    · exact nomatch h
    obtain ⟨s₁, hstep, hrest⟩ := takeMembers_cons_eq_ok_iff.mp h
    by_cases hname : name' = name
    · subst hname
      obtain ⟨hempty, a, hread, hfull⟩ := hfield.own hstep
      rcases ih hrest with ⟨hnone, hslot⟩ | ⟨hslot, -⟩
      · exact .inr ⟨hempty, o, a, by rw [valuesNamed_cons_self, hnone], hread, hslot.trans hfull⟩
      · rw [hfull] at hslot
        exact nomatch hslot
    · rw [valuesNamed_cons_of_ne hname, ← hfield.other hname hstep]
      exact ih hrest

/-- A field that has to be there. -/
theorem once_of_takeMembers (hfield : IsField step name slot read) (hstart : slot s = none)
    (h : takeMembers step s ms ending = .ok s') {a : α} (ha : slot s' = some a) :
    ∃ o, valuesNamed name ms = [o] ∧ read o = .ok a := by
  rcases hfield.slot_takeMembers h with ⟨-, hslot⟩ | ⟨-, o, b, ho, hread, hslot⟩
  · rw [hstart, ha] at hslot
    exact nomatch hslot
  · rw [ha] at hslot
    exact ⟨o, ho, Option.some.inj hslot ▸ hread⟩

/-- A field that may be left out, and may be `null`. -/
theorem given_of_takeMembers {slot : σ → Option (Option α)} {P : Outline → α → Prop}
    (hfield : IsField step name slot (optional read)) (hread : ∀ {o a}, read o = .ok a → P o a)
    (hstart : slot s = none) (h : takeMembers step s ms ending = .ok s') :
    Given P (valuesNamed name ms) (slot s').join := by
  rcases hfield.slot_takeMembers h with ⟨hnone, hslot⟩ | ⟨-, o, a, ho, ha, hslot⟩
  · rw [hnone, hslot, hstart]
    exact .missing
  · rw [ho, hslot]
    exact given_of_optional hread ha

end IsField

end

/-! ### The items of an array -/

section

variable {α : Type} {read : Outline → Except Error α} {os os' : List Outline} {ending : Ending}

theorem needItem_eq_ok_iff {index : Nat} {expected : String} {a : α} :
    needItem index expected read os ending = .ok (a, os') ↔ ∃ o, os = o :: os' ∧ read o = .ok a := by
  cases os with
  | nil => cases ending <;> exact ⟨nofun, nofun⟩
  | cons o os =>
    have hfirst : needItem index expected read (o :: os) ending =
        read o >>= fun a => .ok (a, os) := rfl
    rw [hfirst, bind_eq_ok_iff]
    constructor
    · rintro ⟨b, hb, ⟨⟩⟩
      exact ⟨o, rfl, hb⟩
    · rintro ⟨_, ⟨⟩, ha⟩
      exact ⟨a, ha, rfl⟩

theorem mayItem_eq_ok_iff {a : Option α} :
    mayItem read os ending = .ok (a, os') ↔
      (os = [] ∧ ending = .closed ∧ a = none ∧ os' = []) ∨
        ∃ o b, os = o :: os' ∧ read o = .ok b ∧ a = some b := by
  cases os with
  | nil =>
    cases ending with
    | closed =>
      constructor
      · rintro ⟨⟩
        exact .inl ⟨rfl, rfl, rfl, rfl⟩
      · rintro (⟨-, -, rfl, rfl⟩ | ⟨_, _, ⟨⟩, _⟩)
        rfl
    | cut => exact ⟨nofun, nofun⟩
  | cons o os =>
    have hfirst : mayItem read (o :: os) ending = read o >>= fun a => .ok (some a, os) := rfl
    rw [hfirst, bind_eq_ok_iff]
    constructor
    · rintro ⟨b, hb, ⟨⟩⟩
      exact .inr ⟨o, b, rfl, hb, rfl⟩
    · rintro (⟨⟨⟩, -⟩ | ⟨_, b, ⟨⟩, hb, rfl⟩)
      exact ⟨b, hb, rfl⟩

theorem lastItem_eq_ok_iff : lastItem os ending = .ok () ↔ os = [] ∧ ending = .closed := by
  cases os with
  | nil => cases ending <;> simp [lastItem]
  | cons o os => exact ⟨nofun, nofun⟩

end

end Outline

end RemoteFlags.Json
