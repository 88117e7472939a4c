import Mathlib.Data.List.Dedup
import RemoteFlags.Proofs.Bulk.Atomicity

/-!
# What the cache holds

Whatever is done to a cache, also by operations that fail, every entry is kept under the key that it
names.  Once an answer was taken in, the cache holds that answer and nothing else: for each key that
the answer names the last entry with it.  So only the order of entries with one key counts.

## Main definitions

* `Step`, `grown t steps` — what can be done to a cache, and what has become of a new one.
* `Holds c context es etag` — a cache holds one answer.
* `Entry.Rearranged es es'` — two lists differ only in how entries with different keys follow each
  other.

## Main results

* `keyed_grown` — **the invariant**: entries stay under their keys.
* `holds_of_refresh_eq_ok` — a cache that has taken in an answer holds it.
* `holds_answer` — **a cache holds the last answer that it took in**, in whatever order that lists
  entries with different keys.
-/

namespace RemoteFlags

/-! ### Entries with one key -/

namespace Entry

/-- Whether an entry names a key. -/
def names (key : String) (e : Entry) : Bool := e.key? == some key

theorem names_iff {key : String} {e : Entry} : e.names key = true ↔ e.key? = some key := beq_iff_eq

theorem lastNamed_eq_getLast? (key : String) (es : List Entry) :
    lastNamed key es = (es.filter (names key)).getLast? := by
  induction es with
  | nil => rfl
  | cons e es ih =>
    rw [lastNamed, ih]
    by_cases he : e.key? = some key
    · rw [if_pos he, List.filter_cons_of_pos (names_iff.mpr he), List.getLast?_cons]
      cases (es.filter (names key)).getLast? <;> rfl
    · rw [if_neg he, List.filter_cons_of_neg (mt names_iff.mp he)]
      cases (es.filter (names key)).getLast? <;> rfl

theorem allKeyed_iff {es : List Entry} : allKeyed es = true ↔ ∀ e ∈ es, e.key? ≠ none := by
  simp only [allKeyed, isKeyed, List.all_eq_true, Option.isSome_iff_ne_none]

/-- Two lists have the same entries, and those with one key follow each other in the same order. -/
structure Rearranged (es es' : List Entry) : Prop where
  /-- The entries are the same. -/
  perm : es.Perm es'
  /-- The entries with one key come in the same order. -/
  order : ∀ key, es.filter (names key) = es'.filter (names key)

/-- If every key is named once, then every order will do. -/
theorem rearranged_of_nodup {es es' : List Entry} (hperm : es.Perm es')
    (hnodup : (es.map key?).Nodup) : Rearranged es es' := by
  refine ⟨hperm, fun key => ?_⟩
  have hfilter : (es.filter (names key)).Perm (es'.filter (names key)) := hperm.filter _
  have hnames : ∀ e ∈ es.filter (names key), e.key? = some key := fun e he =>
    names_iff.mp (List.mem_filter.mp he).2
  have honce : ((es.filter (names key)).map key?).Nodup :=
    hnodup.sublist (List.filter_sublist.map key?)
  -- At most one entry is left, and there is only one order of it.
  match hes : es.filter (names key) with
  | [] =>
    rw [hes] at hfilter
    exact (List.nil_perm.mp hfilter).symm
  | [e] =>
    rw [hes] at hfilter
    exact List.singleton_perm.mp hfilter
  | a :: b :: l =>
    rw [hes] at honce hnames
    have hsame : a.key? = b.key? := by rw [hnames a (by simp), hnames b (by simp)]
    simp [hsame] at honce

/-- Neighbours with different keys can change places. -/
theorem rearranged_swap {a b : Entry} (h : a.key? ≠ b.key?) (es : List Entry) :
    Rearranged (a :: b :: es) (b :: a :: es) := by
  refine ⟨List.Perm.swap b a es, fun key => ?_⟩
  by_cases ha : a.key? = some key
  · have hb : ¬ b.key? = some key := fun hb => h (ha.trans hb.symm)
    rw [List.filter_cons_of_pos (names_iff.mpr ha), List.filter_cons_of_neg (mt names_iff.mp hb),
      List.filter_cons_of_neg (mt names_iff.mp hb), List.filter_cons_of_pos (names_iff.mpr ha)]
  · rw [List.filter_cons_of_neg (mt names_iff.mp ha), List.filter_cons, List.filter_cons,
      List.filter_cons_of_neg (mt names_iff.mp ha)]

theorem Rearranged.allKeyed_eq {es es' : List Entry} (h : Rearranged es es') :
    allKeyed es = allKeyed es' := h.perm.all_eq

/-- If all entries name a flag, then none is left out. -/
theorem get?_mapOf_of_allKeyed {es : List Entry} (h : allKeyed es = true) (key : String) :
    (mapOf es).get? key = (es.filter (names key)).getLast? := by
  rw [get?_mapOf, keyed_eq_self h, lastNamed_eq_getLast?]

/-- The keys that are kept are those that are named. -/
theorem mem_keys_mapOf_iff {es : List Entry} (h : allKeyed es = true) {key : String} :
    key ∈ (mapOf es).keys ↔ ∃ e ∈ es, e.key? = some key := by
  rw [← not_iff_not, ← SortedMap.get?_eq_none_iff, get?_mapOf_of_allKeyed h,
    List.getLast?_eq_none_iff, List.filter_eq_nil_iff]
  simp only [names_iff, not_exists, not_and]

/-- Lists that differ in the order of different keys only are kept alike. -/
theorem Rearranged.mapOf_eq {es es' : List Entry} (h : Rearranged es es')
    (hkeyed : allKeyed es = true) : mapOf es = mapOf es' := by
  refine SortedMap.ext_get? fun key => ?_
  rw [get?_mapOf_of_allKeyed hkeyed, get?_mapOf_of_allKeyed (h.allKeyed_eq ▸ hkeyed), h.order key]

end Entry

namespace Cache

open Entry (allKeyed mapOf names Rearranged)

/-! ### Whatever is done to a cache -/

/-- What can be done to a cache. -/
inductive Step where
  /-- Drops everything. -/
  | clear
  /-- Tries an operation, whether or not it succeeds. -/
  | attempt (op : Operation)

/-- The cache after a step. -/
def Step.apply (c : Cache) (now : Instant) : Step → Cache
  | .clear => empty now
  | .attempt op => (op.apply c now).2

/-- What has become of a new cache after some steps, each at its time. -/
def grown (t : Instant) (steps : List (Instant × Step)) : Cache :=
  steps.foldl (fun c s => s.2.apply c s.1) (empty t)

/-- An operation leaves the entries as they are, or puts those of its answer in their place, as far as
they name flags. -/
theorem flags_apply (c : Cache) (op : Operation) (now : Instant) :
    (op.apply c now).2.flags = c.flags ∨ (op.apply c now).2.flags = mapOf op.entries := by
  cases op with
  | refresh context es etag lifetime =>
    rw [Operation.apply, refresh_eq]
    split
    · split
      · exact .inr rfl
      · exact .inr rfl
    · exact .inl rfl
  | extend lifetime =>
    rw [Operation.apply, extend_eq]
    split
    · exact .inl rfl
    · split
      · exact .inl rfl
      · exact .inl rfl

/-- **The step.**  Entries stay under their keys, also when an operation breaks off. -/
theorem keyed_apply {c : Cache} (h : c.Keyed) (now : Instant) (s : Step) :
    (s.apply c now).Keyed := by
  cases s with
  | clear => exact keyed_empty now
  | attempt op =>
    rcases flags_apply c op now with hflags | hflags
    · intro key e he
      rw [Step.apply, get?, hflags] at he
      exact h key e he
    · exact keyed_of_flags hflags

/-- **The invariant.**  Whatever was done to a cache, every entry is kept under its key. -/
theorem keyed_grown (t : Instant) (steps : List (Instant × Step)) : (grown t steps).Keyed := by
  have hfold : ∀ c : Cache, c.Keyed → (steps.foldl (fun c s => s.2.apply c s.1) c).Keyed := by
    induction steps with
    | nil => exact fun _ h => h
    | cons s steps ih => exact fun c h => ih _ (keyed_apply h s.1 s.2)
  exact hfold _ (keyed_empty t)

/-! ### All entries -/

theorem mem_all_iff {c : Cache} {e : Entry} : e ∈ c.all ↔ ∃ key, c.get? key = some e := by
  constructor
  · intro h
    obtain ⟨p, hp, rfl⟩ := List.mem_map.mp h
    exact ⟨p.1, SortedMap.mem_entries_iff.mp hp⟩
  · rintro ⟨key, h⟩
    exact SortedMap.mem_values_of_get? h

/-- The entries name the keys that they are kept under. -/
theorem Keyed.map_key?_all {c : Cache} (h : c.Keyed) : c.all.map Entry.key? = c.flags.keys.map some := by
  rw [all, SortedMap.values, SortedMap.keys, List.map_map, List.map_map]
  exact List.map_congr_left fun p hp => h p.1 p.2 (SortedMap.mem_entries_iff.mp hp)

/-! ### Taking in an answer -/

variable {c d : Cache} {context : Context} {es : List Entry} {etag : Option String} {lifetime : Int}
  {now : Instant}

/-- An answer is taken in when its deadline can be represented and all its entries name a flag; then
nothing but the answer decides what the cache is afterwards. -/
theorem refresh_eq_ok_iff :
    c.refresh context es etag lifetime now = (.ok (), d) ↔
      ((now.after? lifetime).isSome = true ∧ allKeyed es = true) ∧
        d = ⟨mapOf es, some context, etag, now.plus lifetime⟩ := by
  rw [refresh_eq]
  constructor
  · intro h
    split at h
    · next htimely =>
      split at h
      · next hkeyed => exact ⟨⟨htimely, hkeyed⟩, (congrArg Prod.snd h).symm⟩
      · exact absurd (congrArg Prod.fst h) nofun
    · exact absurd (congrArg Prod.fst h) nofun
  · rintro ⟨⟨htimely, hkeyed⟩, rfl⟩
    rw [if_pos htimely, if_pos hkeyed]

/-- A cache holds the entries of one answer. -/
structure Holds (c : Cache) (context : Context) (es : List Entry) (etag : Option String) : Prop where
  /-- Under each key stands the last entry that names it, if there is one. -/
  get? : ∀ key, c.get? key = (es.filter (names key)).getLast?
  /-- Every key that the answer names is named once. -/
  keys : (c.all.map Entry.key?).Perm (es.map Entry.key?).dedup
  /-- Nothing is held but the last entries of their keys. -/
  mem_all : ∀ e, e ∈ c.all ↔ ∃ key, (es.filter (names key)).getLast? = some e
  /-- The mark is told for the contexts that equal the one of the answer, and for no others. -/
  etagFor? : ∀ context', c.etagFor? context' = if context.same context' then etag else none

/-- **A cache that has taken in an answer holds it.** -/
theorem holds_of_refresh_eq_ok (h : c.refresh context es etag lifetime now = (.ok (), d)) :
    d.Holds context es etag := by
  obtain ⟨⟨-, hkeyed⟩, rfl⟩ := refresh_eq_ok_iff.mp h
  have hget := Entry.get?_mapOf_of_allKeyed hkeyed
  refine ⟨hget, ?_, fun e => ?_, fun context' => rfl⟩
  · rw [Keyed.map_key?_all (keyed_of_flags rfl)]
    -- Both lists name no key twice, and they name the same keys.
    refine (List.perm_ext_iff_of_nodup ?_ (List.nodup_dedup _)).mpr fun key? => ?_
    · exact (mapOf es).nodup_keys.map fun _ _ => Option.some.inj
    · rw [List.mem_dedup, List.mem_map, List.mem_map]
      constructor
      · rintro ⟨key, hmem, rfl⟩
        exact (Entry.mem_keys_mapOf_iff hkeyed).mp hmem
      · rintro ⟨e, he, rfl⟩
        obtain ⟨key, hkey⟩ := Option.ne_none_iff_exists'.mp (Entry.allKeyed_iff.mp hkeyed e he)
        exact ⟨key, (Entry.mem_keys_mapOf_iff hkeyed).mpr ⟨e, he, hkey⟩, hkey.symm⟩
  · rw [mem_all_iff]
    exact exists_congr fun key => by rw [Cache.get?, hget key]

/-- **A cache holds the last answer that it took in.**  Whatever was done to a cache, every entry is
kept under the key that it names.  An answer is taken in exactly when its deadline can be represented
and all its entries name a flag.  Then the cache holds that answer: under each key the last entry that
names it, one entry for each key that is named at all, and the mark for the context of the answer.
Of what was held before nothing remains, since every other cache would have become the same.  Nor does
it matter in which order entries with different keys were listed; if no key is named twice, then no
order matters. -/
theorem holds_answer :
    (∀ (t : Instant) (steps : List (Instant × Step)), (grown t steps).Keyed) ∧
    ∀ (c : Cache) (context : Context) (es : List Entry) (etag : Option String) (lifetime : Int)
      (now : Instant),
      ((∃ d, c.refresh context es etag lifetime now = (.ok (), d)) ↔
        (now.after? lifetime).isSome = true ∧ ∀ e ∈ es, e.key? ≠ none) ∧
      ∀ d, c.refresh context es etag lifetime now = (.ok (), d) →
        d.Holds context es etag ∧
        (∀ c' : Cache, c'.refresh context es etag lifetime now = (.ok (), d)) ∧
        (∀ es', Rearranged es es' → c.refresh context es' etag lifetime now = (.ok (), d)) ∧
        (∀ es', es.Perm es' → (es.map Entry.key?).Nodup →
          c.refresh context es' etag lifetime now = (.ok (), d)) := by
  refine ⟨keyed_grown, fun c context es etag lifetime now => ⟨?_, fun d h => ?_⟩⟩
  · simp only [refresh_eq_ok_iff, exists_and_left, exists_eq, and_true, Entry.allKeyed_iff]
  · obtain ⟨⟨htimely, hkeyed⟩, hd⟩ := refresh_eq_ok_iff.mp h
    have hrearranged : ∀ es', Rearranged es es' →
        c.refresh context es' etag lifetime now = (.ok (), d) := by
      intro es' hes
      refine refresh_eq_ok_iff.mpr ⟨⟨htimely, hes.allKeyed_eq ▸ hkeyed⟩, ?_⟩
      rw [hd, hes.mapOf_eq hkeyed]
    exact ⟨holds_of_refresh_eq_ok h, fun c' => refresh_eq_ok_iff.mpr ⟨⟨htimely, hkeyed⟩, hd⟩,
      hrearranged, fun es' hperm hnodup =>
        hrearranged es' (Entry.rearranged_of_nodup hperm hnodup)⟩

/-- An entry for a flag that is off. -/
def switchedOff (key : String) : Entry :=
  .success { key := key, reason := none, variant := none, value := .ofTree (.bool false),
             metadata := none }

/-- The entries of an answer that names the flag `b` twice. -/
def repeatedB : List Entry := [switchedOn "b", switchedOn "c", switchedOff "b"]

/-- A cache with a flag `a` takes in that answer: `a` is gone, `b` is off, and the flag `c` could as
well have come first. -/
theorem holdingA_after_repeatedB :
    ∃ d, holdingA.refresh ∅ repeatedB (some "v2") 60 ⟨1, 0⟩ = (.ok (), d) ∧
      d.get? "a" = none ∧ d.get? "b" = some (switchedOff "b") ∧ d.all.length = 2 ∧
      d.etagFor? ∅ = some "v2" ∧
      holdingA.refresh ∅ [switchedOn "c", switchedOn "b", switchedOff "b"] (some "v2") 60 ⟨1, 0⟩ =
        (.ok (), d) := by
  obtain ⟨hok, hholds⟩ := holds_answer.2 holdingA ∅ repeatedB (some "v2") 60 ⟨1, 0⟩
  obtain ⟨d, hd⟩ := hok.mpr ⟨by decide, by decide⟩
  obtain ⟨hanswer, -, hrearranged, -⟩ := hholds d hd
  refine ⟨d, hd, hanswer.get? "a", hanswer.get? "b", ?_, hanswer.etagFor? ∅, ?_⟩
  · have hkeys : (repeatedB.map Entry.key?).dedup = [some "c", some "b"] := by decide
    simpa [hkeys] using hanswer.keys.length_eq
  · exact hrearranged _ (Entry.rearranged_swap (by decide) [switchedOff "b"])

end Cache

end RemoteFlags
