import RemoteFlags.Proofs.Context.Layers
import RemoteFlags.Proofs.Context.RoundTrip

/-!
# Layers as they are sent

What is sent of a context is one object, and of several members with one name the last one counts.  An
attribute with the name of the targeting key is written after the targeting key, so it hides the key.
That shows when a context is laid over another: what is sent is the object of the lower context with
that of the upper one put over it, unless an attribute of the lower context hides the targeting key of
the upper one.

## Main definitions

* `Context.member? c name` — what the last member with a name says.
* `Json.Value.Reread room v w` — what is written as `v` is read as `w`; a double need not be read as the
  double that it was.
* `Context.HidesKey a b` — an attribute of `a` hides the targeting key of `b`.

## Main results

* `Context.read_toMap_iff` — **the object that is read of a context.**
* `Context.read_merge` — **the object that is read of a context laid over another.**
* `Context.read_merge_lower_upper` — a targeting key that is hidden.
-/

namespace RemoteFlags

open Json Outline

/-! ### Values that are written and read -/

section

variable {α β : Type} {R : α → β → Prop}

theorem rel_orElse {a a' : Option α} {b b' : Option β} (h : Option.Rel R a b)
    (h' : Option.Rel R a' b') : Option.Rel R (a <|> a') (b <|> b') := by
  cases h with
  | none => exact h'
  | some h => exact .some h

theorem rel_some_iff {a : α} {b : Option β} :
    Option.Rel R (some a) b ↔ ∃ b', b = some b' ∧ R a b' := by
  constructor
  · rintro ⟨h⟩
    exact ⟨_, rfl, h⟩
  · rintro ⟨b', rfl, h⟩
    exact .some h

theorem rel_map_left_iff {γ : Type} {f : γ → α} {a : Option γ} {b : Option β} :
    Option.Rel R (a.map f) b ↔ Option.Rel (fun c b => R (f c) b) a b := by
  cases a <;> cases b <;> simp

theorem rel_unique (hR : ∀ a b b', R a b → R a b' → b = b') {a : Option α} {b b' : Option β}
    (h : Option.Rel R a b) (h' : Option.Rel R a b') : b = b' := by
  cases h with
  | none =>
    cases h'
    rfl
  | some h =>
    cases h' with
    | some h' => exact congrArg some (hR _ _ _ h h')

end

namespace Json.Value

variable {room : Nat} {v w w' : Json.Value}

/-- What is written as the value `v` is read as `w`, with `room` levels left. -/
def Reread (room : Nat) (v w : Json.Value) : Prop := (written v.tree).toValue room = .ok w

theorem Reread.unique (h : Reread room v w) (h' : Reread room v w') : w = w' :=
  Except.ok.inj (h.symm.trans h')

theorem reread_string (room : Nat) (s : String) : Reread room (.string s) (.string s) := rfl

/-- Nothing but a string is read as a string. -/
theorem Reread.eq_string {s : String} (h : Reread room v (.string s)) : v = .string s := by
  obtain ⟨t, hv⟩ := v
  obtain ⟨t', hwritten, -, hvalue⟩ := toValue_eq_ok_iff.mp h
  have hnormal : t'.normal = .string s := congrArg tree hvalue
  obtain rfl : t' = .string s := by
    cases t' with
    | string s' => exact hnormal
    | _ => cases hnormal
  cases t with
  | number n =>
    have hnumber : ofNumeral n.numeral = .string s := hwritten
    unfold ofNumeral at hnumber
    split at hnumber <;> cases hnumber
  | string s' =>
    obtain rfl := Outline.string.inj hwritten
    rfl
  | _ => cases hwritten

end Json.Value

/-! ### Members that are written and read -/

namespace Json.Outline

variable {room : Nat} {ms ts : List (String × Tree)}

/-- If the value of each member can be read, then so can the members. -/
theorem exists_toMembers_writtenMembers (h : ∀ m ∈ ms, ∃ t, (written m.2).toTree room = .ok t) :
    ∃ ts, toMembers room (writtenMembers ms) .closed = .ok ts := by
  induction ms with
  | nil => exact ⟨[], rfl⟩
  | cons m ms ih =>
    obtain ⟨⟨t, ht⟩, hrest⟩ := List.forall_mem_cons.mp h
    obtain ⟨ts, hts⟩ := ih hrest
    exact ⟨(m.1, t) :: ts, bind_eq_ok_iff.mpr ⟨t, ht, bind_eq_ok_iff.mpr ⟨ts, hts, rfl⟩⟩⟩

/-- The last member with a name is read as the last one with that name. -/
theorem lastEntry_of_toMembers (h : toMembers room (writtenMembers ms) .closed = .ok ts)
    (name : String) :
    Option.Rel (fun t w => (written t).toValue room = .ok w) (lastEntry name ms)
      (lastEntry name (ts.map fun m => (m.1, Value.ofTree m.2))) := by
  induction ms generalizing ts with
  | nil =>
    cases h
    exact .none
  | cons m ms ih =>
    obtain ⟨k, t⟩ := m
    obtain ⟨t', ht, h⟩ := bind_eq_ok_iff.mp h
    obtain ⟨ts, hts, ⟨⟩⟩ := bind_eq_ok_iff.mp h
    refine rel_orElse (ih hts) ?_
    by_cases hk : k = name
    · simp only [hk, if_true]
      exact .some (map_eq_ok_iff.mpr ⟨t', ht, rfl⟩)
    · simp only [hk, if_false]
      exact .none

end Json.Outline

namespace Context

/-! ### What is read of a context -/

/-- What the last member with a name says.  An attribute with the name of the targeting key is written
after the key. -/
def member? (c : Context) (name : String) : Option Json.Value :=
  c.attribute? name <|>
    if name = targetingKeyName then c.targetingKey.map Json.Value.string else none

theorem lastEntry_members (c : Context) (name : String) :
    lastEntry name c.members = (c.member? name).map Json.Value.tree := by
  have hattribute : lookupEntry name c.attributes.entries = c.attribute? name := rfl
  rw [members, lastEntry_append, lastEntry_map, lastEntry_eq_lookupEntry c.attributes.increasing,
    hattribute, member?]
  cases c.attribute? name with
  | some v => rfl
  | none =>
    cases c.targetingKey with
    | none => by_cases hname : name = targetingKeyName <;> simp [hname, lastEntry]
    | some k =>
      by_cases hname : name = targetingKeyName
      · subst hname
        rfl
      · simp [hname, Ne.symm hname, lastEntry]

variable {room : Nat} {a b c : Context} {A B M : SortedMap Json.Value}

/-- An object is what is read of the members of a context, with `room` levels left for them. -/
def ReadAs (room : Nat) (c : Context) (M : SortedMap Json.Value) : Prop :=
  ∀ name, Option.Rel (Json.Value.Reread room) (c.member? name) (M.get? name)

theorem ReadAs.unique {N : SortedMap Json.Value} (hM : ReadAs room c M) (hN : ReadAs room c N) :
    M = N :=
  SortedMap.ext_get? fun name => rel_unique (fun _ _ _ h h' => h.unique h') (hM name) (hN name)

theorem readAs_of_toMembers {ts : List (String × Tree)}
    (h : toMembers room (writtenMembers c.members) .closed = .ok ts) :
    ReadAs room c (SortedMap.ofList (ts.map fun m => (m.1, Value.ofTree m.2))) := by
  intro name
  have hlast := lastEntry_of_toMembers h name
  rw [lastEntry_members, rel_map_left_iff] at hlast
  rw [SortedMap.get?_ofList]
  exact hlast

/-- If an object is what is read of a context, then every member can be read. -/
theorem ReadAs.exists_toMembers (h : ReadAs room c M) :
    ∃ ts, toMembers room (writtenMembers c.members) .closed = .ok ts := by
  refine exists_toMembers_writtenMembers
    (forall_mem_members (p := fun t => ∃ t', (written t).toTree room = .ok t')
      (fun _ => ⟨_, rfl⟩) fun e he => ?_)
  have hattribute : c.attribute? e.1 = some e.2 := SortedMap.mem_entries_iff.mp he
  have hread := h e.1
  rw [member?, hattribute] at hread
  obtain ⟨w, -, hw⟩ := rel_some_iff.mp hread
  obtain ⟨t, ht, -⟩ := map_eq_ok_iff.mp hw
  exact ⟨t, ht⟩

/-- **The object that is read of a context**: under each name it has what the last member says. -/
theorem read_toMap_iff :
    Document.read (toMap room) c.text = .ok M ↔ 2 ≤ room ∧ ReadAs (room - 1) c M := by
  rw [text, Document.read_text, toTree_eq, written, toMap]
  constructor
  · intro h
    obtain ⟨room', henter, h⟩ := bind_eq_ok_iff.mp h
    obtain ⟨hroom, rfl⟩ := enter_eq_ok_iff.mp henter
    obtain ⟨ts, hts, ⟨⟩⟩ := bind_eq_ok_iff.mp h
    exact ⟨hroom, readAs_of_toMembers hts⟩
  · rintro ⟨hroom, hM⟩
    obtain ⟨ts, hts⟩ := hM.exists_toMembers
    rw [hM.unique (readAs_of_toMembers hts)]
    exact bind_eq_ok_iff.mpr ⟨_, enter_eq_ok_iff.mpr ⟨hroom, rfl⟩,
      bind_eq_ok_iff.mpr ⟨ts, hts, rfl⟩⟩

/-! ### Layers -/

/-- An attribute of `a` hides the targeting key of `b`, which says something else. -/
def HidesKey (a b : Context) : Prop :=
  b.attribute? targetingKeyName = none ∧ ∃ k v, b.targetingKey = some k ∧
    a.attribute? targetingKeyName = some v ∧ v ≠ .string k

theorem member?_merge_of_ne {name : String} (hname : name ≠ targetingKeyName) :
    (a.merge b).member? name = (b.member? name <|> a.member? name) := by
  simp only [member?, attribute?_merge, if_neg hname]
  cases b.attribute? name <;> cases a.attribute? name <;> rfl

theorem member?_merge (h : ¬ HidesKey a b) (name : String) :
    (a.merge b).member? name = (b.member? name <|> a.member? name) := by
  by_cases hname : name = targetingKeyName
  · subst hname
    simp only [member?, attribute?_merge, targetingKey_merge, if_true]
    cases hattribute : b.attribute? targetingKeyName with
    | some v => rfl
    | none =>
      cases hkey : b.targetingKey with
      | none => cases a.attribute? targetingKeyName <;> rfl
      | some k =>
        cases hbelow : a.attribute? targetingKeyName with
        | none => rfl
        | some v =>
          have hsame : v = .string k :=
            by_contra fun hne => h ⟨hattribute, k, v, hkey, hbelow, hne⟩
          exact congrArg some hsame
  · exact member?_merge_of_ne hname

theorem rel_override (hA : ReadAs room a A) (hB : ReadAs room b B) (name : String) :
    Option.Rel (Json.Value.Reread room) (b.member? name <|> a.member? name)
      ((A.override B).get? name) := by
  rw [SortedMap.get?_override]
  exact rel_orElse (hB name) (hA name)

/-- Where no attribute hides the targeting key, what is read is one object put over the other. -/
theorem ReadAs.merge (hA : ReadAs room a A) (hB : ReadAs room b B) (h : ¬ HidesKey a b) :
    ReadAs room (a.merge b) (A.override B) := by
  intro name
  rw [member?_merge h]
  exact rel_override hA hB name

/-- An attribute that hides the targeting key is read in its place. -/
theorem ReadAs.merge_of_hidesKey (hA : ReadAs room a A) (hB : ReadAs room b B) (h : HidesKey a b) :
    ∃ w, A.get? targetingKeyName = some w ∧ (A.override B).get? targetingKeyName ≠ some w ∧
      ReadAs room (a.merge b) ((A.override B).insert targetingKeyName w) := by
  obtain ⟨hnone, k, v, hkey, hv, hne⟩ := h
  have hbelow := hA targetingKeyName
  have habove := hB targetingKeyName
  rw [member?, hv] at hbelow
  rw [member?, hnone, hkey] at habove
  obtain ⟨w, hw, hread⟩ := rel_some_iff.mp hbelow
  obtain ⟨w', hw', hread'⟩ := rel_some_iff.mp habove
  obtain rfl := hread'.unique (Json.Value.reread_string room k)
  refine ⟨w, hw, fun hget => ?_, fun name => ?_⟩
  · -- The attribute would be read as the key, and so it would say what the key says.
    rw [SortedMap.get?_override, hw'] at hget
    exact hne (Json.Value.Reread.eq_string (Option.some.inj hget ▸ hread))
  · by_cases hname : name = targetingKeyName
    · subst hname
      rw [SortedMap.get?_insert_self, member?, attribute?_merge, hnone, hv]
      exact .some hread
    · rw [SortedMap.get?_insert_of_ne _ (Ne.symm hname), member?_merge_of_ne hname]
      exact rel_override hA hB name

/-- **The object that is read of a context laid over another.**  If objects are read of both, then one
is read of the layers.  It is the object of the lower context with that of the upper one put over it
exactly if no attribute of the lower one hides the targeting key of the upper one.  Otherwise the
attribute that hides the key is read in its place, and the rest is as it should be. -/
theorem read_merge (ha : Document.read (toMap room) a.text = .ok A)
    (hb : Document.read (toMap room) b.text = .ok B) :
    ∃ M, Document.read (toMap room) (a.merge b).text = .ok M ∧
      (M = A.override B ↔ ¬ HidesKey a b) ∧
      (HidesKey a b → M.get? targetingKeyName = A.get? targetingKeyName) ∧
      ∀ name, name ≠ targetingKeyName → M.get? name = (A.override B).get? name := by
  obtain ⟨hroom, hA⟩ := read_toMap_iff.mp ha
  obtain ⟨-, hB⟩ := read_toMap_iff.mp hb
  by_cases h : HidesKey a b
  · obtain ⟨w, hw, hother, hread⟩ := hA.merge_of_hidesKey hB h
    refine ⟨_, read_toMap_iff.mpr ⟨hroom, hread⟩, iff_of_false (fun hsame => ?_) (· h), fun _ => ?_,
      fun name hname => SortedMap.get?_insert_of_ne _ hname.symm w⟩
    · rw [← hsame, SortedMap.get?_insert_self] at hother
      exact hother rfl
    · rw [SortedMap.get?_insert_self, hw]
  · exact ⟨_, read_toMap_iff.mpr ⟨hroom, hA.merge hB h⟩, iff_of_true rfl h, fun h' => absurd h' h,
      fun _ _ => rfl⟩

/-! ### A targeting key that is hidden -/

/-- A context with an attribute in the place of the targeting key. -/
def lower : Context := (∅ : Context).withAttribute targetingKeyName (.string "x")

/-- A context with a targeting key. -/
def upper : Context := (∅ : Context).withTargetingKey "y"

/-- The object in which a string stands under the name of the targeting key. -/
def keyed (s : String) : SortedMap Json.Value :=
  (∅ : SortedMap Json.Value).insert targetingKeyName (.string s)

theorem read_lower : Document.read (toMap nestingLimit) lower.text = .ok (keyed "x") := by
  rw [text, Document.read_text]
  rfl

theorem read_upper : Document.read (toMap nestingLimit) upper.text = .ok (keyed "y") := by
  rw [text, Document.read_text]
  rfl

/-- The attribute of the lower context is read, whatever targeting key the upper one has. -/
theorem read_merge_lower_upper :
    ∃ M, Document.read (toMap nestingLimit) (lower.merge upper).text = .ok M ∧
      M ≠ (keyed "x").override (keyed "y") ∧ M.get? targetingKeyName = some (.string "x") := by
  have hhides : HidesKey lower upper := ⟨rfl, "y", .string "x", rfl, rfl, by simp⟩
  obtain ⟨M, hread, hsame, hkey, -⟩ := read_merge read_lower read_upper
  exact ⟨M, hread, fun h => hsame.mp h hhides, hkey hhides⟩

/-- Laying a context over another is not the same as putting its object over that of the other one. -/
theorem merge_ne_override :
    ∃ A B M, Document.read (toMap nestingLimit) lower.text = .ok A ∧
      Document.read (toMap nestingLimit) upper.text = .ok B ∧
      Document.read (toMap nestingLimit) (lower.merge upper).text = .ok M ∧ M ≠ A.override B := by
  refine ⟨keyed "x", keyed "y", keyed "x", read_lower, read_upper, ?_, ?_⟩
  · rw [text, Document.read_text]
    rfl
  · intro h
    have hget := congrArg (SortedMap.get? · targetingKeyName) h
    simp [SortedMap.get?_override, keyed] at hget

end Context

end RemoteFlags
