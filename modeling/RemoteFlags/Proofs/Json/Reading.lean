import RemoteFlags.Json.Outline.Record
import RemoteFlags.Result

/-!
# What can be read

Reading a value completely takes that its outline has no fault anywhere, and that it nests no deeper
than there is room.  Skipping takes less: a tree of any height is skipped.

## Main definitions

* `Tree.height` — how deep a tree nests.

## Main results

* `Outline.toTree_eq_ok_iff` — **what is read is the outline of a tree that is not too high.**
* `Outline.ofTree_injective` — a tree is determined by its outline.
* `Outline.skip_ofTree` — trees are skipped, however high they are.
-/

namespace RemoteFlags

namespace Json

/-! ### Heights -/

namespace Tree

mutual

/-- How deep a tree nests: scalars do not, and an empty array or object has height one. -/
def height : Tree → Nat
  | .array items => itemsHeight items + 1
  | .object members => membersHeight members + 1
  | _ => 0

/-- The greatest height of some items. -/
def itemsHeight : List Tree → Nat
  | [] => 0
  | t :: ts => max t.height (itemsHeight ts)

/-- The greatest height of the values of some members. -/
def membersHeight : List (String × Tree) → Nat
  | [] => 0
  | (_, t) :: ms => max t.height (membersHeight ms)

end

theorem membersHeight_le_iff {n : Nat} {ms : List (String × Tree)} :
    membersHeight ms ≤ n ↔ ∀ m ∈ ms, m.2.height ≤ n := by
  induction ms with
  | nil => simp [membersHeight]
  | cons m ms ih => rw [membersHeight, Nat.max_le, ih, List.forall_mem_cons]

end Tree

namespace Outline

/-! ### Levels -/

theorem enter_eq_ok_iff {room room' : Nat} : enter room = .ok room' ↔ 2 ≤ room ∧ room' = room - 1 := by
  unfold enter
  split
  · exact ⟨nofun, by omega⟩
  · constructor
    · intro h
      exact ⟨by omega, (Except.ok.inj h).symm⟩
    · rintro ⟨-, rfl⟩
      rfl

/-! ### Reading trees -/

mutual

/-- With room enough, the outline of a tree is read as that tree. -/
theorem toTree_ofTree : ∀ {room : Nat} {t : Tree}, t.height ≤ room - 1 →
    (ofTree t).toTree room = .ok t
  | _, .null, _ => rfl
  | _, .bool _, _ => rfl
  | _, .number _, _ => rfl
  | _, .string _, _ => rfl
  | room, .array ts, h => by
    rw [Tree.height] at h
    have hroom : enter room = .ok (room - 1) := enter_eq_ok_iff.mpr ⟨by omega, rfl⟩
    rw [ofTree, toTree, hroom]
    exact bind_eq_ok_iff.mpr ⟨_, rfl, bind_eq_ok_iff.mpr ⟨ts, toTrees_ofTrees (by omega), rfl⟩⟩
  | room, .object ms, h => by
    rw [Tree.height] at h
    have hroom : enter room = .ok (room - 1) := enter_eq_ok_iff.mpr ⟨by omega, rfl⟩
    rw [ofTree, toTree, hroom]
    exact bind_eq_ok_iff.mpr ⟨_, rfl, bind_eq_ok_iff.mpr ⟨ms, toMembers_ofMembers (by omega), rfl⟩⟩

theorem toTrees_ofTrees : ∀ {room : Nat} {ts : List Tree}, Tree.itemsHeight ts ≤ room - 1 →
    toTrees room (ofTrees ts) .closed = .ok ts
  | _, [], _ => rfl
  | _, t :: ts, h => by
    obtain ⟨hfirst, hrest⟩ := Nat.max_le.mp h
    rw [ofTrees, toTrees, toTree_ofTree hfirst]
    exact bind_eq_ok_iff.mpr ⟨t, rfl, bind_eq_ok_iff.mpr ⟨ts, toTrees_ofTrees hrest, rfl⟩⟩

theorem toMembers_ofMembers : ∀ {room : Nat} {ms : List (String × Tree)},
    Tree.membersHeight ms ≤ room - 1 → toMembers room (ofMembers ms) .closed = .ok ms
  | _, [], _ => rfl
  | _, (k, t) :: ms, h => by
    obtain ⟨hfirst, hrest⟩ := Nat.max_le.mp h
    rw [ofMembers, toMembers, toTree_ofTree hfirst]
    exact bind_eq_ok_iff.mpr ⟨t, rfl, bind_eq_ok_iff.mpr ⟨ms, toMembers_ofMembers hrest, rfl⟩⟩

end

mutual

/-- Nothing is read but outlines of trees. -/
theorem eq_ofTree_of_toTree (room : Nat) : ∀ (o : Outline) {t : Tree}, o.toTree room = .ok t →
    o = .ofTree t ∧ t.height ≤ room - 1
  | .null, _ => by
    rintro ⟨⟩
    exact ⟨rfl, Nat.zero_le _⟩
  | .bool _, _ => by
    rintro ⟨⟩
    exact ⟨rfl, Nat.zero_le _⟩
  | .number _, _ => by
    rintro ⟨⟩
    exact ⟨rfl, Nat.zero_le _⟩
  | .string _, _ => by
    rintro ⟨⟩
    exact ⟨rfl, Nat.zero_le _⟩
  | .unreadable _, _ => nofun
  | .broken _ _, _ => nofun
  | .array os ending, _ => by
    intro h
    rw [toTree] at h
    obtain ⟨_, henter, h⟩ := bind_eq_ok_iff.mp h
    obtain ⟨hroom, rfl⟩ := enter_eq_ok_iff.mp henter
    obtain ⟨ts, hts, ⟨⟩⟩ := bind_eq_ok_iff.mp h
    obtain ⟨rfl, rfl, hheight⟩ := eq_ofTrees_of_toTrees (room - 1) os ending hts
    refine ⟨rfl, ?_⟩
    rw [Tree.height]
    omega
  | .object ms ending, _ => by
    intro h
    rw [toTree] at h
    obtain ⟨_, henter, h⟩ := bind_eq_ok_iff.mp h
    obtain ⟨hroom, rfl⟩ := enter_eq_ok_iff.mp henter
    obtain ⟨ts, hts, ⟨⟩⟩ := bind_eq_ok_iff.mp h
    obtain ⟨rfl, rfl, hheight⟩ := eq_ofMembers_of_toMembers (room - 1) ms ending hts
    refine ⟨rfl, ?_⟩
    rw [Tree.height]
    omega

theorem eq_ofTrees_of_toTrees (room : Nat) : ∀ (os : List Outline) (ending : Ending)
    {ts : List Tree}, toTrees room os ending = .ok ts →
    os = ofTrees ts ∧ ending = .closed ∧ Tree.itemsHeight ts ≤ room - 1
  | [], .closed, _ => by
    rintro ⟨⟩
    exact ⟨rfl, rfl, Nat.zero_le _⟩
  | [], .cut _ _ _, _ => nofun
  | o :: os, ending, _ => by
    intro h
    rw [toTrees] at h
    obtain ⟨t, ht, h⟩ := bind_eq_ok_iff.mp h
    obtain ⟨ts, hts, ⟨⟩⟩ := bind_eq_ok_iff.mp h
    obtain ⟨rfl, hfirst⟩ := eq_ofTree_of_toTree room o ht
    obtain ⟨rfl, rfl, hrest⟩ := eq_ofTrees_of_toTrees room os ending hts
    exact ⟨rfl, rfl, Nat.max_le.mpr ⟨hfirst, hrest⟩⟩

theorem eq_ofMembers_of_toMembers (room : Nat) :
    ∀ (ms : List (Except Fault String × Outline)) (ending : Ending) {ts : List (String × Tree)},
    toMembers room ms ending = .ok ts →
    ms = ofMembers ts ∧ ending = .closed ∧ Tree.membersHeight ts ≤ room - 1
  | [], .closed, _ => by
    rintro ⟨⟩
    exact ⟨rfl, rfl, Nat.zero_le _⟩
  | [], .cut _ _ _, _ => nofun
  | (.error _, _) :: _, _, _ => nofun
  | (.ok k, o) :: ms, ending, _ => by
    intro h
    rw [toMembers] at h
    obtain ⟨t, ht, h⟩ := bind_eq_ok_iff.mp h
    obtain ⟨ts, hts, ⟨⟩⟩ := bind_eq_ok_iff.mp h
    obtain ⟨rfl, hfirst⟩ := eq_ofTree_of_toTree room o ht
    obtain ⟨rfl, rfl, hrest⟩ := eq_ofMembers_of_toMembers room ms ending hts
    exact ⟨rfl, rfl, Nat.max_le.mpr ⟨hfirst, hrest⟩⟩

end

/-- **What is read is the outline of a tree that is not too high.** -/
theorem toTree_eq_ok_iff {room : Nat} {o : Outline} {t : Tree} :
    o.toTree room = .ok t ↔ o = .ofTree t ∧ t.height ≤ room - 1 :=
  ⟨eq_ofTree_of_toTree room o, fun ⟨ho, h⟩ => ho ▸ toTree_ofTree h⟩

/-- A tree is determined by its outline. -/
theorem ofTree_injective {t t' : Tree} (h : ofTree t = ofTree t') : t = t' := by
  -- With enough room for both, the one outline is read as both trees.
  let room := max t.height t'.height + 1
  have ht : (ofTree t).toTree room = .ok t := toTree_ofTree (Nat.le_max_left _ _)
  have ht' : (ofTree t').toTree room = .ok t' := toTree_ofTree (Nat.le_max_right _ _)
  rw [h] at ht
  exact Except.ok.inj (ht.symm.trans ht')

/-! ### Skipping trees -/

mutual

/-- Trees are skipped, however high they are. -/
theorem skip_ofTree : ∀ t : Tree, (ofTree t).skip = .ok ()
  | .null => rfl
  | .bool _ => rfl
  | .number _ => rfl
  | .string _ => rfl
  | .array ts => skipItems_ofTrees ts
  | .object ms => skipMembers_ofMembers ms

theorem skipItems_ofTrees : ∀ ts : List Tree, skipItems (ofTrees ts) .closed = .ok ()
  | [] => rfl
  | t :: ts => by rw [ofTrees, skipItems, skip_ofTree t]; exact skipItems_ofTrees ts

theorem skipMembers_ofMembers : ∀ ms : List (String × Tree),
    skipMembers (ofMembers ms) .closed = .ok ()
  | [] => rfl
  | (_, t) :: ms => by rw [ofMembers, skipMembers, skip_ofTree t]; exact skipMembers_ofMembers ms

end

end Outline

end Json

end RemoteFlags
