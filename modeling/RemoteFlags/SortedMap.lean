/-!
# Maps from texts, kept in the order of their keys

A `SortedMap` is a list of entries with strictly increasing keys, compared by code point (which is
also the byte order of UTF-8).  The order is part of the type, so two maps with the same look-ups
are equal, and whatever is printed from a map comes out in one order.

## Main definitions

* `insertSorted k v l`: the entry list `l` with `k` bound to `v`, in one pass.
* `SortedMap`: entry lists with increasing keys, with `get?`, `insert`, `ofList`, `override`.
* `lastEntry k l`: the last binding of `k` in a list.

## Main statements

* `SortedMap.get?_insert_self`, `SortedMap.get?_insert_of_ne`: what an insertion does to look-ups.
* `SortedMap.ext_get?`: a map is determined by its look-ups.
* `SortedMap.get?_ofList`, `SortedMap.get?_override`: the last binding of a key counts.
-/

namespace RemoteFlags

variable {α β : Type}

/-- The entry list with `k` bound to `v`: a present key keeps its place, a new one is put before
the first larger key. -/
def insertSorted (k : String) (v : α) : List (String × α) → List (String × α)
  | [] => [(k, v)]
  | e :: l =>
    if k < e.1 then (k, v) :: e :: l
    else if k = e.1 then (k, v) :: l
    else e :: insertSorted k v l

/-- An entry list is sorted when every key is smaller than all later ones. -/
abbrev KeysIncreasing (l : List (String × α)) : Prop :=
  l.Pairwise fun a b => a.1 < b.1

theorem mem_insertSorted {k : String} {v : α} {e : String × α} {l : List (String × α)}
    (h : e ∈ insertSorted k v l) : e = (k, v) ∨ e ∈ l := by
  induction l with
  | nil => simpa [insertSorted] using h
  | cons a l ih =>
    unfold insertSorted at h
    split at h
    · simpa using h
    · split at h
      · rcases List.mem_cons.1 h with h | h
        · exact .inl h
        · exact .inr (List.mem_cons_of_mem _ h)
      · rcases List.mem_cons.1 h with h | h
        · exact .inr (by simp [h])
        · rcases ih h with h | h
          · exact .inl h
          · exact .inr (List.mem_cons_of_mem _ h)

theorem keysIncreasing_insertSorted {l : List (String × α)} (k : String) (v : α)
    (h : KeysIncreasing l) : KeysIncreasing (insertSorted k v l) := by
  induction l with
  | nil => simp [insertSorted]
  | cons a l ih =>
    have hl := List.pairwise_cons.1 h
    unfold insertSorted
    split
    · rename_i hk
      refine List.pairwise_cons.2 ⟨fun b hb => ?_, h⟩
      rcases List.mem_cons.1 hb with rfl | hb
      · exact hk
      · exact String.lt_trans hk (hl.1 b hb)
    · split
      · rename_i hk
        exact List.pairwise_cons.2 ⟨fun b hb => hk ▸ hl.1 b hb, hl.2⟩
      · rename_i hlt hne
        refine List.pairwise_cons.2 ⟨fun b hb => ?_, ih hl.2⟩
        rcases mem_insertSorted hb with rfl | hb
        · exact Std.lt_of_le_of_ne (String.not_lt.1 hlt) (Ne.symm hne)
        · exact hl.1 b hb

/-- The value bound to `k` by the first entry with that key. -/
def lookupEntry (k : String) : List (String × α) → Option α
  | [] => none
  | e :: l => if e.1 = k then some e.2 else lookupEntry k l

theorem lookupEntry_insertSorted_self (k : String) (v : α) (l : List (String × α)) :
    lookupEntry k (insertSorted k v l) = some v := by
  induction l with
  | nil => simp [insertSorted, lookupEntry]
  | cons a l ih =>
    unfold insertSorted
    split
    · simp [lookupEntry]
    · split
      · simp [lookupEntry]
      · rename_i hne
        simp [lookupEntry, Ne.symm hne, ih]

theorem lookupEntry_insertSorted_of_ne {k k' : String} (h : k ≠ k') (v : α)
    (l : List (String × α)) : lookupEntry k' (insertSorted k v l) = lookupEntry k' l := by
  induction l with
  | nil => simp [insertSorted, lookupEntry, h]
  | cons a l ih =>
    unfold insertSorted
    split
    · simp [lookupEntry, h]
    · split
      · rename_i hk
        simp [lookupEntry, h, ← hk]
      · by_cases ha : a.1 = k' <;> simp [lookupEntry, ha, ih]

/-- Below the first key of a sorted list nothing is found. -/
theorem lookupEntry_eq_none_of_lt {k : String} {l : List (String × α)}
    (h : ∀ e ∈ l, k < e.1) : lookupEntry k l = none := by
  induction l with
  | nil => rfl
  | cons a l ih =>
    have ha : a.1 ≠ k := by
      intro he
      exact String.lt_irrefl k (by simpa [he] using h a (by simp))
    simp [lookupEntry, ha, ih fun e he => h e (List.mem_cons_of_mem _ he)]

theorem lookupEntry_eq_none_iff {k : String} {l : List (String × α)} :
    lookupEntry k l = none ↔ ∀ e ∈ l, e.1 ≠ k := by
  induction l with
  | nil => simp [lookupEntry]
  | cons a l ih => by_cases ha : a.1 = k <;> simp [lookupEntry, ha, ih]

/-- A map from texts whose entries are listed by increasing key. -/
structure SortedMap (α : Type) where
  /-- The entries. -/
  entries : List (String × α)
  /-- The keys increase strictly, so none occurs twice. -/
  increasing : KeysIncreasing entries
deriving DecidableEq

namespace SortedMap

/-- The map without entries. -/
def empty : SortedMap α := ⟨[], List.Pairwise.nil⟩

instance : EmptyCollection (SortedMap α) := ⟨empty⟩

instance : Inhabited (SortedMap α) := ⟨∅⟩

/-- Whether the map has no entry. -/
def isEmpty (m : SortedMap α) : Bool := m.entries.isEmpty

/-- The value bound to a key. -/
def get? (m : SortedMap α) (k : String) : Option α := lookupEntry k m.entries

/-- The map with `k` bound to `v`, whatever it was bound to before. -/
def insert (m : SortedMap α) (k : String) (v : α) : SortedMap α :=
  ⟨insertSorted k v m.entries, keysIncreasing_insertSorted k v m.increasing⟩

/-- The map that a list of bindings gives, a later binding of a key replacing an earlier one. -/
def ofList (l : List (String × α)) : SortedMap α :=
  l.foldl (fun m e => m.insert e.1 e.2) ∅

/-- The keys, in increasing order. -/
def keys (m : SortedMap α) : List String := m.entries.map (·.1)

/-- The values, in the order of their keys. -/
def values (m : SortedMap α) : List α := m.entries.map (·.2)

/-- The bindings of `m`, replaced by those of `n` wherever both have a key. -/
def override (m n : SortedMap α) : SortedMap α :=
  n.entries.foldl (fun m e => m.insert e.1 e.2) m

/-- Two maps have the same keys, with values that `same` relates. -/
def sameBy (same : α → β → Bool) (m : SortedMap α) (n : SortedMap β) : Bool :=
  go m.entries n.entries
where
  /-- Compares two entry lists position by position. -/
  go : List (String × α) → List (String × β) → Bool
    | [], [] => true
    | a :: l, b :: l' => a.1 == b.1 && same a.2 b.2 && go l l'
    | _, _ => false

@[simp] theorem get?_empty (k : String) : (∅ : SortedMap α).get? k = none := rfl

/-- No key occurs twice. -/
theorem nodup_keys (m : SortedMap α) : m.keys.Nodup :=
  List.pairwise_map.mpr (m.increasing.imp fun h => Std.ne_of_lt h)

theorem get?_eq_none_iff {m : SortedMap α} {k : String} : m.get? k = none ↔ k ∉ m.keys := by
  rw [get?, lookupEntry_eq_none_iff, keys, List.mem_map]
  exact ⟨fun h ⟨e, he, hk⟩ => h e he hk, fun h e he hk => h ⟨e, he, hk⟩⟩

/-- The entries are the look-ups. -/
theorem mem_entries_iff {m : SortedMap α} {k : String} {v : α} :
    (k, v) ∈ m.entries ↔ m.get? k = some v := by
  have hlookup : ∀ l : List (String × α), KeysIncreasing l →
      ((k, v) ∈ l ↔ lookupEntry k l = some v) := by
    intro l hl
    induction l with
    | nil => exact ⟨nofun, nofun⟩
    | cons a l ih =>
      obtain ⟨hfirst, hrest⟩ := List.pairwise_cons.1 hl
      rw [List.mem_cons, lookupEntry, ih hrest]
      split
      · next ha =>
        -- Further on all keys are greater.
        have hnone : lookupEntry k l = none := lookupEntry_eq_none_of_lt (ha ▸ hfirst)
        subst ha
        rw [hnone, Option.some.injEq, or_iff_left nofun, Prod.ext_iff]
        exact ⟨fun h => h.2.symm, fun h => ⟨rfl, h.symm⟩⟩
      · next ha =>
        refine ⟨fun h => h.resolve_left ?_, .inr⟩
        rintro rfl
        exact ha rfl
  exact hlookup m.entries m.increasing

@[simp] theorem get?_insert_self (m : SortedMap α) (k : String) (v : α) :
    (m.insert k v).get? k = some v :=
  lookupEntry_insertSorted_self k v m.entries

theorem get?_insert_of_ne (m : SortedMap α) {k k' : String} (h : k ≠ k') (v : α) :
    (m.insert k v).get? k' = m.get? k' :=
  lookupEntry_insertSorted_of_ne h v m.entries

/-- Two sorted entry lists with the same look-ups are equal. -/
theorem entries_eq_of_lookup {l l' : List (String × α)} (h : KeysIncreasing l)
    (h' : KeysIncreasing l') (hk : ∀ k, lookupEntry k l = lookupEntry k l') : l = l' := by
  -- Induction on both lists: the two first keys are equal, since the smaller one would be missing
  -- from the other list.
  induction l generalizing l' with
  | nil =>
    cases l' with
    | nil => rfl
    | cons b l' => simpa [lookupEntry] using hk b.1
  | cons a l ih =>
    cases l' with
    | nil => simpa [lookupEntry] using hk a.1
    | cons b l' =>
      have ha := List.pairwise_cons.1 h
      have hb := List.pairwise_cons.1 h'
      have hab : a.1 = b.1 := by
        rcases Classical.em (a.1 = b.1) with he | hne
        · exact he
        · rcases String.le_total a.1 b.1 with hle | hle
          · have hlt : a.1 < b.1 := Std.lt_of_le_of_ne hle hne
            have hnone : lookupEntry a.1 (b :: l') = none := by
              refine lookupEntry_eq_none_of_lt fun e he => ?_
              rcases List.mem_cons.1 he with rfl | he
              · exact hlt
              · exact String.lt_trans hlt (hb.1 e he)
            have := hk a.1
            rw [hnone] at this
            simp [lookupEntry] at this
          · have hlt : b.1 < a.1 := Std.lt_of_le_of_ne hle (Ne.symm hne)
            have hnone : lookupEntry b.1 (a :: l) = none := by
              refine lookupEntry_eq_none_of_lt fun e he => ?_
              rcases List.mem_cons.1 he with rfl | he
              · exact hlt
              · exact String.lt_trans hlt (ha.1 e he)
            have := hk b.1
            rw [hnone] at this
            simp [lookupEntry] at this
      have hv : a.2 = b.2 := by
        have := hk a.1
        simpa [lookupEntry, hab] using this
      have htail : ∀ k, lookupEntry k l = lookupEntry k l' := by
        intro k
        rcases Classical.em (a.1 = k) with he | hne
        · rw [lookupEntry_eq_none_of_lt fun e hm => he ▸ ha.1 e hm,
            lookupEntry_eq_none_of_lt fun e hm => he ▸ hab ▸ hb.1 e hm]
        · have := hk k
          simpa [lookupEntry, hne, ← hab] using this
      have hpair : a = b := Prod.ext hab hv
      rw [hpair, ih ha.2 hb.2 htail]

/-- A map is determined by its look-ups. -/
theorem ext_get? {m n : SortedMap α} (h : ∀ k, m.get? k = n.get? k) : m = n := by
  cases m with
  | mk l hl =>
    cases n with
    | mk l' hl' =>
      have := entries_eq_of_lookup hl hl' h
      subst this
      rfl

end SortedMap

/-! ### Bindings one after the other -/

/-- The value that the last binding of `k` gives. -/
def lastEntry (k : String) : List (String × α) → Option α
  | [] => none
  | e :: l => lastEntry k l <|> if e.1 = k then some e.2 else none

theorem lastEntry_append (k : String) (l l' : List (String × α)) :
    lastEntry k (l ++ l') = (lastEntry k l' <|> lastEntry k l) := by
  induction l with
  | nil => cases h : lastEntry k l' <;> simp [lastEntry, h]
  | cons e l ih =>
    rw [List.cons_append, lastEntry, ih, lastEntry]
    cases lastEntry k l' <;> rfl

theorem mem_of_lastEntry {k : String} {v : α} {l : List (String × α)} (h : lastEntry k l = some v) :
    (k, v) ∈ l := by
  induction l with
  | nil => cases h
  | cons e l ih =>
    rw [lastEntry] at h
    cases hrest : lastEntry k l with
    | some v' =>
      rw [hrest] at h
      exact List.mem_cons_of_mem e (ih (hrest.trans h))
    | none =>
      rw [hrest] at h
      by_cases he : e.1 = k
      · obtain rfl : e.2 = v := by simpa [he] using h
        rw [← he]
        exact List.mem_cons_self
      · simp [he] at h

theorem lastEntry_map {f : α → β} (k : String) (l : List (String × α)) :
    lastEntry k (l.map fun e => (e.1, f e.2)) = (lastEntry k l).map f := by
  induction l with
  | nil => rfl
  | cons e l ih =>
    rw [List.map_cons, lastEntry, ih, lastEntry]
    cases lastEntry k l with
    | some v => rfl
    | none => by_cases he : e.1 = k <;> simp [he]

/-- In a sorted list a key has one binding, so the first one is the last one. -/
theorem lastEntry_eq_lookupEntry {l : List (String × α)} (h : KeysIncreasing l) (k : String) :
    lastEntry k l = lookupEntry k l := by
  induction l with
  | nil => rfl
  | cons e l ih =>
    obtain ⟨hfirst, hrest⟩ := List.pairwise_cons.1 h
    rw [lastEntry, lookupEntry, ih hrest]
    by_cases he : e.1 = k
    · rw [lookupEntry_eq_none_of_lt fun e' hm => he ▸ hfirst e' hm, if_pos he]
      rfl
    · rw [if_neg he, if_neg he]
      cases lookupEntry k l <;> rfl

namespace SortedMap

/-- After some bindings a key has the value of its last one, and otherwise the value it had before. -/
theorem get?_foldl_insert (l : List (String × α)) (m : SortedMap α) (k : String) :
    (l.foldl (fun m e => m.insert e.1 e.2) m).get? k = (lastEntry k l <|> m.get? k) := by
  -- Induction on the bindings, over all maps that they are put into.
  induction l generalizing m with
  | nil => rfl
  | cons e l ih =>
    rw [List.foldl_cons, ih, lastEntry]
    cases lastEntry k l with
    | some v => rfl
    | none =>
      by_cases he : e.1 = k
      · rw [if_pos he, ← he, get?_insert_self]
        rfl
      · rw [if_neg he, get?_insert_of_ne m he]
        rfl

theorem get?_ofList (l : List (String × α)) (k : String) : (ofList l).get? k = lastEntry k l := by
  rw [ofList, get?_foldl_insert, get?_empty]
  cases lastEntry k l <;> rfl

/-- A map is what its entries give. -/
theorem ofList_entries (m : SortedMap α) : ofList m.entries = m :=
  ext_get? fun k => (get?_ofList m.entries k).trans (lastEntry_eq_lookupEntry m.increasing k)

theorem get?_override (m n : SortedMap α) (k : String) :
    (m.override n).get? k = (n.get? k <|> m.get? k) := by
  rw [override, get?_foldl_insert, lastEntry_eq_lookupEntry n.increasing]
  rfl

theorem isEmpty_iff {m : SortedMap α} : m.isEmpty = true ↔ ∀ k, m.get? k = none := by
  constructor
  · intro h k
    rw [get?, List.isEmpty_iff.1 h]
    rfl
  · intro h
    have : m = ∅ := ext_get? fun k => (h k).trans (get?_empty k).symm
    rw [this]
    rfl

end SortedMap

end RemoteFlags
