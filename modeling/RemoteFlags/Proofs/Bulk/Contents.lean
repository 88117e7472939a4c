import RemoteFlags.Cache

/-!
# The contents of the cache

A bulk answer lists its entries; the cache keeps them by key.  Of several entries with one key the
last one counts, and an entry without a key ends the taking in.

## Main definitions

* `Entry.lastNamed key es` — the last entry of a list with a key.
* `Entry.keyed es` — the entries before the first one without a key.
* `Entry.mapOf es` — the entries by their keys.
* `Cache.Keyed` — every entry is kept under its own key.

## Main results

* `Cache.get?_putAll` — what `Cache.putAll` does to look-ups, whether or not it runs to the end.
* `Entry.get?_mapOf` — the look-ups of `Entry.mapOf`.
* `Cache.refresh_eq`, `Cache.extend_eq` — the operations on the cache, case by case.
-/

namespace RemoteFlags

theorem SortedMap.mem_values_of_get? {α : Type} {m : SortedMap α} {key : String} {v : α}
    (h : m.get? key = some v) : v ∈ m.values :=
  List.mem_map.mpr ⟨(key, v), mem_entries_iff.mpr h, rfl⟩

namespace Entry

/-- Whether an entry names a flag. -/
def isKeyed (e : Entry) : Bool := e.key?.isSome

/-- The entries before the first one that names no flag. -/
def keyed (es : List Entry) : List Entry := es.takeWhile isKeyed

/-- Whether all entries name a flag. -/
def allKeyed (es : List Entry) : Bool := es.all isKeyed

/-- The last entry of a list that names a flag. -/
def lastNamed (key : String) : List Entry → Option Entry
  | [] => none
  | e :: es => lastNamed key es <|> if e.key? = some key then some e else none

/-- The entries by their keys, up to the first one that names no flag. -/
def mapOf (es : List Entry) : SortedMap Entry := (Cache.putAll ∅ es).1

@[simp] theorem keyed_nil : keyed [] = [] := rfl

theorem keyed_cons_of_some {e : Entry} {key : String} (h : e.key? = some key) (es : List Entry) :
    keyed (e :: es) = e :: keyed es := by
  simp [keyed, isKeyed, h]

theorem keyed_cons_of_none {e : Entry} (h : e.key? = none) (es : List Entry) :
    keyed (e :: es) = [] := by
  simp [keyed, isKeyed, h]

theorem keyed_eq_self {es : List Entry} (h : allKeyed es = true) : keyed es = es := by
  induction es with
  | nil => rfl
  | cons e es ih =>
    obtain ⟨he, hes⟩ : isKeyed e = true ∧ allKeyed es = true := by simpa [allKeyed] using h
    rw [keyed, List.takeWhile_cons_of_pos he]
    exact congrArg (e :: ·) (ih hes)

theorem mem_of_lastNamed {key : String} {e : Entry} :
    ∀ {es : List Entry}, lastNamed key es = some e → e ∈ es ∧ e.key? = some key := by
  intro es
  induction es with
  | nil => intro h; simp [lastNamed] at h
  | cons a es ih =>
    intro h
    unfold lastNamed at h
    cases hes : lastNamed key es with
    | some b =>
      rw [hes] at h
      obtain rfl : b = e := by simpa using h
      obtain ⟨hmem, hkey⟩ := ih hes
      exact ⟨List.mem_cons_of_mem a hmem, hkey⟩
    | none =>
      rw [hes] at h
      by_cases ha : a.key? = some key
      · obtain rfl : a = e := by simpa [ha] using h
        exact ⟨List.mem_cons_self, ha⟩
      · simp [ha] at h

end Entry

namespace Cache

open Entry

/-- Taking in entries fails exactly when one of them names no flag. -/
theorem putAll_snd (m : SortedMap Entry) (es : List Entry) :
    (putAll m es).2 = if allKeyed es then none else some .keylessEntry := by
  induction es generalizing m with
  | nil => rfl
  | cons e es ih =>
    cases he : e.key? with
    | none => simp [putAll, he, allKeyed, isKeyed]
    | some key =>
      have hrest := ih (m.insert key e)
      simp only [putAll, he, hrest]
      simp [allKeyed, isKeyed, he]

/-- After taking in entries, a key finds the last entry before the first one that names no flag, and
otherwise what it found before. -/
theorem get?_putAll (m : SortedMap Entry) (es : List Entry) (key : String) :
    (putAll m es).1.get? key = (lastNamed key (keyed es) <|> m.get? key) := by
  -- Induction on the entries, over all maps that they are put into.
  induction es generalizing m with
  | nil => simp [putAll, lastNamed]
  | cons e es ih =>
    cases he : e.key? with
    | none => simp [putAll, he, keyed_cons_of_none he, lastNamed]
    | some k =>
      rw [keyed_cons_of_some he]
      simp only [putAll, he, lastNamed, ih (m.insert k e)]
      by_cases hk : k = key
      · subst hk
        rw [SortedMap.get?_insert_self]
        cases lastNamed k (keyed es) <;> simp
      · rw [SortedMap.get?_insert_of_ne m hk]
        cases lastNamed key (keyed es) <;> simp [hk]

theorem mem_values_putAll {m : SortedMap Entry} {es : List Entry} {e : Entry}
    (h : e ∈ (putAll m es).1.values) : e ∈ m.values ∨ e ∈ es := by
  induction es generalizing m with
  | nil => exact .inl h
  | cons a es ih =>
    cases ha : a.key? with
    | none =>
      simp only [putAll, ha] at h
      exact .inl h
    | some key =>
      simp only [putAll, ha] at h
      rcases ih h with h | h
      · obtain ⟨p, hp, rfl⟩ := List.mem_map.mp h
        rcases mem_insertSorted hp with rfl | hp
        · exact .inr List.mem_cons_self
        · exact .inl (List.mem_map.mpr ⟨p, hp, rfl⟩)
      · exact .inr (List.mem_cons_of_mem a h)

end Cache

theorem Entry.get?_mapOf (es : List Entry) (key : String) :
    (Entry.mapOf es).get? key = Entry.lastNamed key (Entry.keyed es) := by
  rw [Entry.mapOf, Cache.get?_putAll]
  simp

theorem Entry.mem_of_mem_mapOf {es : List Entry} {e : Entry} (h : e ∈ (Entry.mapOf es).values) :
    e ∈ es := by
  rcases Cache.mem_values_putAll h with h | h
  · exact absurd h List.not_mem_nil
  · exact h

/-! ### Entries under their keys -/

/-- Every entry is kept under the key that it names. -/
def Cache.Keyed (c : Cache) : Prop := ∀ key e, c.get? key = some e → e.key? = some key

theorem Cache.keyed_empty (now : Instant) : (Cache.empty now).Keyed := by
  intro key e h
  cases h

theorem Cache.keyed_of_flags {c : Cache} {es : List Entry} (h : c.flags = Entry.mapOf es) :
    c.Keyed := by
  intro key e he
  rw [Cache.get?, h, Entry.get?_mapOf] at he
  exact (Entry.mem_of_lastNamed he).2

/-! ### Operations on the cache -/

theorem Instant.eq_plus_of_after? {t u : Instant} {seconds : Int} (h : t.after? seconds = some u) :
    u = t.plus seconds := by
  unfold after? at h
  split at h
  · exact (Option.some.inj h).symm
  · simp at h

namespace Cache

open Entry

theorem deadline?_eq (now : Instant) (lifetime : Int) :
    deadline? now lifetime =
      if (now.after? lifetime).isSome then .ok (now.plus lifetime)
      else .error (.lifetimeOutOfRange lifetime) := by
  unfold deadline?
  cases h : now.after? lifetime with
  | none => rfl
  | some u => rw [Instant.eq_plus_of_after? h]; rfl

/-- Taking in an answer: nothing happens when the deadline cannot be represented, everything is
replaced when all entries name a flag, and otherwise only the entries are. -/
theorem refresh_eq (c : Cache) (context : Context) (es : List Entry) (etag : Option String)
    (lifetime : Int) (now : Instant) :
    c.refresh context es etag lifetime now =
      if (now.after? lifetime).isSome then
        if allKeyed es then
          (.ok (), ⟨mapOf es, some context, etag, now.plus lifetime⟩)
        else (.error .keylessEntry, { c with flags := mapOf es })
      else (.error (.lifetimeOutOfRange lifetime), c) := by
  have hput : putAll ∅ es = (mapOf es, if allKeyed es then none else some .keylessEntry) :=
    Prod.ext rfl (putAll_snd ∅ es)
  rw [refresh, deadline?_eq, hput]
  cases (now.after? lifetime).isSome with
  | false => rfl
  | true => cases allKeyed es <;> rfl

/-- Keeping the entries for longer: only the deadline changes, and only when there is an answer to
be kept and the new deadline can be represented. -/
theorem extend_eq (c : Cache) (lifetime : Int) (now : Instant) :
    c.extend lifetime now =
      if c.context.isNone then (.error .nothingCached, c)
      else if (now.after? lifetime).isSome then
        (.ok (), { c with deadline := now.plus lifetime })
      else (.error (.lifetimeOutOfRange lifetime), c) := by
  rw [extend, deadline?_eq]
  cases c.context with
  | none => rfl
  | some context => cases (now.after? lifetime).isSome <;> rfl

theorem isFor_iff {c : Cache} {context : Context} :
    c.isFor context = true ↔ ∃ d, c.context = some d ∧ d.same context = true :=
  Option.any_eq_true _ _

theorem isFor_of_etagFor? {c : Cache} {context : Context} {mark : String}
    (h : c.etagFor? context = some mark) : c.isFor context = true ∧ c.etag = some mark := by
  unfold etagFor? at h
  split at h
  · next hfor => exact ⟨hfor, h⟩
  · simp at h

end Cache

end RemoteFlags
