import RemoteFlags.Proofs.Bulk.Agreement
import RemoteFlags.Proofs.Bulk.Isolation
import RemoteFlags.Proofs.Json.Reading
import RemoteFlags.Proofs.Pause.Run
import RemoteFlags.Proofs.Text.Order

/-!
# The list of all flags

The list of all flags is made from the entries of the cache, in whatever order they come, and sorted
by key.  Since every entry is kept under its own key, the list names each flag once, and says about
it what a call for that flag alone says.  The entries come from bodies in the encodings of
`Text.Charset`.

## Main results

* `Pause.Run.keyed_after` — **the invariant**: it holds after every run.
* `list_agrees_with_resolve` — **the list is canonical, and agrees with the calls for one flag.**
-/

namespace RemoteFlags

/-! ### Entries under their keys -/

theorem Bulk.keyed_absorb {lifetime : Int} {c : Cache} (h : c.Keyed) (i : Inquiry) :
    (absorb lifetime c i).Keyed := by
  unfold absorb
  split
  · exact Cache.keyed_of_flags rfl
  split
  · exact h
  split
  · exact Cache.keyed_of_flags rfl
  · exact h

theorem Remote.keyed_refetch (r : Remote) {st : State} (h : st.cache.Keyed) (c : Context)
    (w : World) : (r.refetch st c w).state.cache.Keyed := by
  have hprepared : (prepared st c w).2.1.cache.Keyed := by
    cases hmark : st.cache.etagFor? c with
    | none =>
      rw [prepared_of_no_mark hmark]
      exact Cache.keyed_empty _
    | some mark =>
      rw [prepared_of_mark hmark]
      exact h
  rw [(tookIn_refetch r st c w).cache]
  exact Bulk.keyed_absorb hprepared _

/-- **The step.**  A call keeps every entry under its key. -/
theorem Bulk.Call.keyed_make (r : Remote) {st : Remote.State} (h : st.cache.Keyed) (w : World)
    (k : Call) : (k.make r st w).state.cache.Keyed := by
  cases hcached : k.isCached r with
  | false =>
    obtain ⟨key, c, -, hmake, -⟩ := exists_resolveSingle hcached st w
    rw [hmake]
    have hcache : (r.resolveSingle st key c w).state.cache = st.cache := by
      rw [Remote.resolveSingle_eq]
      cases (r.post st.pause (r.endpoint (some key)) c none w).1 with
      | error e => rfl
      | ok res =>
        dsimp only
        split
        · rfl
        · exact Remote.cache_refused _ _ _ _
    exact hcache ▸ h
  | true =>
    rw [make_of_isCached hcached]
    cases hasking : k.asking? st w with
    | none =>
      rw [(perform_of_answers r hasking).2.2.1]
      exact h
    | some w' =>
      rw [state_of_asks r hasking]
      exact Remote.keyed_refetch r h k.context w'

/-- **The invariant.**  After every run every entry is kept under its key. -/
theorem Pause.Run.keyed_after (r : Remote) (w : World) (ks : List Bulk.Call) :
    (after r w ks).state.cache.Keyed := by
  have hfold : ∀ (x : Run), x.state.cache.Keyed → (ks.foldl (step r) x).state.cache.Keyed := by
    induction ks with
    | nil => exact fun _ h => h
    | cons k ks ih => exact fun x h => ih _ (Bulk.Call.keyed_make r h x.world k)
  exact hfold _ (Cache.keyed_empty _)

/-! ### The list -/

theorem Entry.value?_eq_some_iff {e : Entry} {key : String} {res : Resolution} :
    e.value? = some (key, res) ↔ ∃ s, e = .success s ∧ s.key = key ∧ s.resolution = res := by
  cases e with
  | failure f => exact ⟨nofun, nofun⟩
  | success s => simp [value?]

namespace Remote

theorem valuesOf_eq_filterMap_entries (c : Cache) :
    valuesOf c = c.flags.entries.filterMap fun p => p.2.value? := by
  rw [valuesOf_eq, Cache.all, SortedMap.values, List.filterMap_map]
  rfl

/-- The list says about a flag what its entry says, and leaves out the flags without a value. -/
theorem mem_valuesOf_iff {c : Cache} (h : c.Keyed) {key : String} {res : Resolution} :
    (key, res) ∈ valuesOf c ↔ ∃ s, c.get? key = some (.success s) ∧ res = s.resolution := by
  rw [valuesOf_eq_filterMap_entries, List.mem_filterMap]
  constructor
  · rintro ⟨⟨k, e⟩, hmem, hvalue⟩
    obtain ⟨s, rfl, hkey, rfl⟩ := Entry.value?_eq_some_iff.mp hvalue
    have hget : c.get? k = some (.success s) := SortedMap.mem_entries_iff.mp hmem
    obtain rfl : s.key = k := Option.some.inj (h k _ hget)
    exact ⟨s, hkey ▸ hget, rfl⟩
  · rintro ⟨s, hget, rfl⟩
    have hkey : s.key = key := Option.some.inj (h key _ hget)
    exact ⟨(key, .success s), SortedMap.mem_entries_iff.mpr hget,
      Entry.value?_eq_some_iff.mpr ⟨s, rfl, hkey, rfl⟩⟩

/-- The list names every flag once, in the order of the keys. -/
theorem pairwise_valuesOf {c : Cache} (h : c.Keyed) :
    (valuesOf c).Pairwise fun a b => a.1 < b.1 := by
  have hkey : ∀ p ∈ c.flags.entries, ∀ a, p.2.value? = some a → a.1 = p.1 := by
    rintro ⟨k, e⟩ hp ⟨key, res⟩ ha
    obtain ⟨s, rfl, rfl, -⟩ := Entry.value?_eq_some_iff.mp ha
    exact Option.some.inj (h k _ (SortedMap.mem_entries_iff.mp hp))
  rw [valuesOf_eq_filterMap_entries, List.pairwise_filterMap]
  refine c.flags.increasing.imp_of_mem fun hp hq hlt a ha b hb => ?_
  rw [hkey _ hp a ha, hkey _ hq b hb]
  exact hlt

/-- The list names every flag with one resolution only. -/
theorem eq_of_mem_valuesOf {c : Cache} (h : c.Keyed) {a b : String × Resolution}
    (ha : a ∈ valuesOf c) (hb : b ∈ valuesOf c) (hkey : a.1 = b.1) : a = b := by
  obtain ⟨key, res⟩ := a
  obtain ⟨key', res'⟩ := b
  obtain rfl : key = key' := hkey
  obtain ⟨s, hs, rfl⟩ := (mem_valuesOf_iff h).mp ha
  obtain ⟨s', hs', rfl⟩ := (mem_valuesOf_iff h).mp hb
  obtain rfl : s = s' := by simpa [hs] using hs'
  rfl

/-- Collecting the values of the entries in another order, and sorting them by key, gives the same
list. -/
theorem mergeSort_values {c : Cache} (h : c.Keyed) {es : List Entry} (hes : es.Perm c.all) :
    (es.filterMap Entry.value?).mergeSort (fun a b => a.1 ≤ b.1) = valuesOf c := by
  have hperm : ((es.filterMap Entry.value?).mergeSort (fun a b => a.1 ≤ b.1)).Perm (valuesOf c) := by
    rw [valuesOf_eq]
    exact (List.mergeSort_perm _ _).trans (hes.filterMap _)
  -- Both lists are sorted, and no two items of them have one key.
  have hleft : ((es.filterMap Entry.value?).mergeSort (fun a b => a.1 ≤ b.1)).Pairwise
      fun a b => a.1 ≤ b.1 := by
    refine (List.pairwise_mergeSort ?_ ?_ _).imp fun hle => of_decide_eq_true hle
    · intro a b d hab hbd
      exact decide_eq_true (String.le_trans (of_decide_eq_true hab) (of_decide_eq_true hbd))
    · intro a b
      rw [Bool.or_eq_true, decide_eq_true_iff, decide_eq_true_iff]
      exact String.le_total a.1 b.1
  have hright : (valuesOf c).Pairwise fun a b => a.1 ≤ b.1 :=
    (pairwise_valuesOf h).imp fun hlt => Std.le_of_lt hlt
  refine hperm.eq_of_pairwise ?_ hleft hright
  intro a b ha hb hab hba
  exact eq_of_mem_valuesOf h (hperm.mem_iff.mp ha) hb (String.le_antisymm hab hba)

/-- A list that is told is the one of the cache afterwards. -/
theorem eq_valuesOf_of_list {r : Remote} {st : State} {c : Context} {w : World}
    {v : List (String × Resolution)} (h : (r.list st c w).result = .ok v) :
    v = valuesOf (r.list st c w).state.cache := by
  rw [list] at h ⊢
  cases hneeds : st.cache.needsRefresh c w.now.1 with
  | false =>
    rw [fromCache_of_fresh r _ hneeds] at h ⊢
    exact (Except.ok.inj h).symm
  | true =>
    rw [fromCache_of_stale r _ hneeds] at h ⊢
    rw [Outcome.state_answering]
    rw [Outcome.answering] at h
    split at h
    · cases h
    · exact (Except.ok.inj h).symm

/-- A call for one flag in a list is told what the list says about it, and a call for any other flag
fails. -/
theorem entryAnswer_of_valuesOf {c : Cache} (h : c.Keyed) (key : String) :
    (∃ res, (key, res) ∈ valuesOf c ∧
      entryAnswer key (c.get? key) = .ok { res with reason := .cached }) ∨
    key ∉ (valuesOf c).map (·.1) ∧
      ∃ code details, entryAnswer key (c.get? key) = .error (.evaluation code details) := by
  have hout : (∀ s, c.get? key ≠ some (.success s)) → key ∉ (valuesOf c).map (·.1) := by
    intro hnone hmem
    obtain ⟨a, ha, rfl⟩ := List.mem_map.mp hmem
    obtain ⟨s, hs, -⟩ := (mem_valuesOf_iff h).mp ha
    exact hnone s hs
  cases hget : c.get? key with
  | none => exact .inr ⟨hout (by simp [hget]), _, _, rfl⟩
  | some e =>
    cases e with
    | failure f => exact .inr ⟨hout (by simp [hget]), _, _, rfl⟩
    | success s => exact .inl ⟨s.resolution, (mem_valuesOf_iff h).mpr ⟨s, hget, rfl⟩, rfl⟩

end Remote

namespace Bulk

/-- **The list is canonical, and agrees with the calls for one flag.**  After every run, a list of
all flags that is told names its flags by strictly increasing key, also by the bytes of the keys.  It
has one item for every key that leads to a success in the cache, and none for the other keys; from
the same entries in any order the same list is made.  As long as the cache keeps these entries and
is fresh for the context, a call for one flag in bulk mode is told what the list says, with the
reason that it comes from a cache, and fails for flags that are not in the list. -/
theorem list_agrees_with_resolve {r : Remote} {w : World} {ks : List Call} {c : Context}
    {v : List (String × Resolution)}
    (h : (r.list (Pause.Run.after r w ks).state c (Pause.Run.after r w ks).world).result = .ok v) :
    let x := Pause.Run.after r w ks
    let cache := (r.list x.state c x.world).state.cache
    (v.Pairwise fun a b => a.1 < b.1 ∧ Text.utf8 a.1 < Text.utf8 b.1) ∧
    (∀ key res, (key, res) ∈ v ↔
      ∃ s, cache.get? key = some (.success s) ∧ res = s.resolution) ∧
    (∀ es : List Entry, es.Perm cache.all →
      (es.filterMap Entry.value?).mergeSort (fun a b => a.1 ≤ b.1) = v) ∧
    ∀ (st : Remote.State) (w' : World) (key : String), st.cache.flags = cache.flags →
      st.cache.needsRefresh c w'.now.1 = false →
      (∃ res, (key, res) ∈ v ∧
        (r.resolveBulk st key c w').result = .ok { res with reason := .cached }) ∨
      key ∉ v.map (·.1) ∧
        ∃ code details, (r.resolveBulk st key c w').result = .error (.evaluation code details) := by
  intro x cache
  have hkeyed : cache.Keyed :=
    Call.keyed_make r (Pause.Run.keyed_after r w ks) x.world (.list c)
  obtain rfl : v = Remote.valuesOf cache := Remote.eq_valuesOf_of_list h
  refine ⟨?_, fun key res => Remote.mem_valuesOf_iff hkeyed,
    fun es hes => Remote.mergeSort_values hkeyed hes, ?_⟩
  · exact (Remote.pairwise_valuesOf hkeyed).imp fun hlt => ⟨hlt, Text.utf8_lt_utf8 hlt⟩
  · intro st w' key hflags hfresh
    have hget : st.cache.get? key = cache.get? key := congrArg (·.get? key) hflags
    rw [Remote.resolveBulk_of_fresh r key hfresh, hget]
    exact Remote.entryAnswer_of_valuesOf hkeyed key

/-- The list of all flags, from a server whose answer names one flag twice and says that another one
has no value. -/
def repeatedListing : Remote.Outcome (List (String × Resolution)) :=
  minuteRemote.list (Pause.Run.after minuteRemote repeatingWorld []).state ∅
    (Pause.Run.after minuteRemote repeatingWorld []).world

/-- The list has one item, in whatever order the entries come, and the call for the flag without a
value fails. -/
theorem list_of_repeated_flag :
    ∃ v, repeatedListing.result = .ok v ∧ v.map (·.1) = ["a"] ∧
      (repeatedListing.state.cache.all.reverse.filterMap Entry.value?).mergeSort
        (fun a b => a.1 ≤ b.1) = v ∧
      ∃ code details, (minuteRemote.resolveBulk repeatedListing.state "b" ∅
        repeatedListing.world).result = .error (.evaluation code details) := by
  have hlisted : ((repeatedListing.result.toOption.any fun v => v.map (·.1) == ["a"]) &&
      !repeatedListing.state.cache.needsRefresh ∅ repeatedListing.world.now.1) = true := by
    decide +kernel
  obtain ⟨hlist, hfresh⟩ := Bool.and_eq_true_iff.mp hlisted
  obtain ⟨v, hv, hnames⟩ := (Option.any_eq_true _ _).mp hlist
  have hresult : repeatedListing.result = .ok v := toOption_eq_some_iff.mp hv
  have hnames : v.map (·.1) = ["a"] := eq_of_beq hnames
  obtain ⟨-, -, hsorted, hagrees⟩ := list_agrees_with_resolve hresult
  rw [← repeatedListing] at hsorted hagrees
  refine ⟨v, hresult, hnames, hsorted _ (List.reverse_perm _), ?_⟩
  rcases hagrees repeatedListing.state repeatedListing.world "b" rfl (by simpa using hfresh) with
    ⟨res, hres, -⟩ | ⟨-, hfails⟩
  · have hmem : "b" ∈ v.map (·.1) := List.mem_map.mpr ⟨("b", res), hres, rfl⟩
    rw [hnames] at hmem
    exact absurd hmem (by decide)
  · exact hfails

end Bulk

end RemoteFlags
