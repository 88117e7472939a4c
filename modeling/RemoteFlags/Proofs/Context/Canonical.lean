import RemoteFlags.Proofs.Bulk.Freshness
import RemoteFlags.Proofs.Context.Layers
import RemoteFlags.Proofs.Context.RoundTrip
import RemoteFlags.Proofs.Text.Order

/-!
# Contexts that are built in different ways

A context is built part by part, each part replacing what was said before about the targeting key or
about one attribute.  What counts is the last targeting key and the last value of each attribute.  Two
contexts that end with the same ones are the same context: nothing shows in which order they were
built, neither in the texts that are made from them nor in the cache.

## Main definitions

* `Context.Part`, `Context.ofParts ps` — the parts of a context, and the context that they give.
* `Context.lastKey? ps`, `Context.lastValue? name ps` — the last targeting key, and the last value of
  an attribute.
* `Context.ListsNames body names` — the context in the body of a request lists members with these
  names, in this order.

## Main results

* `Context.attribute?_ofParts`, `Context.targetingKey_ofParts` — what a context says is what its parts
  said last.
* `Context.ofParts_eq_iff` — when parts give the same context.
* `Context.listsNames_requestBody` — the order of the members in the body of a request.
* `Context.canonical_of_last` — **contexts are canonical.**
-/

namespace RemoteFlags

open Json Outline

namespace Context

/-! ### Parts -/

/-- A part of a context. -/
inductive Part where
  /-- The targeting key. -/
  | key (k : String)
  /-- An attribute. -/
  | entry (name : String) (v : Json.Value)

namespace Part

/-- The context with one more part. -/
def apply (c : Context) : Part → Context
  | .key k => c.withTargetingKey k
  | .entry name v => c.withAttribute name v

/-- The targeting key that a part sets. -/
def key? : Part → Option String
  | .key k => some k
  | .entry _ _ => none

/-- The attribute that a part sets. -/
def attribute? : Part → Option (String × Json.Value)
  | .key _ => none
  | .entry name v => some (name, v)

end Part

/-- The context that parts give, one after the other. -/
def ofParts (ps : List Part) : Context := ps.foldl Part.apply ∅

/-- The last targeting key that parts set. -/
def lastKey? (ps : List Part) : Option String := (ps.filterMap Part.key?).getLast?

/-- The last value that parts give to an attribute. -/
def lastValue? (name : String) (ps : List Part) : Option Json.Value :=
  lastEntry name (ps.filterMap Part.attribute?)

/-! ### What parts say -/

theorem targetingKey_foldl (c : Context) (ps : List Part) :
    (ps.foldl Part.apply c).targetingKey = (lastKey? ps).or c.targetingKey := by
  unfold lastKey?
  -- Induction on the parts, from any context that is there before them.
  induction ps generalizing c with
  | nil => rfl
  | cons p ps ih =>
    rw [List.foldl_cons, ih, List.filterMap_cons]
    cases p with
    | entry name v => rfl
    | key k =>
      rw [Part.key?, List.getLast?_cons]
      cases (ps.filterMap Part.key?).getLast? <;> rfl

theorem attributes_foldl (c : Context) (ps : List Part) :
    (ps.foldl Part.apply c).attributes =
      (ps.filterMap Part.attribute?).foldl (fun m e => m.insert e.1 e.2) c.attributes := by
  induction ps generalizing c with
  | nil => rfl
  | cons p ps ih =>
    rw [List.foldl_cons, ih, List.filterMap_cons]
    cases p <;> rfl

/-- The targeting key is the one that was set last. -/
theorem targetingKey_ofParts (ps : List Part) : (ofParts ps).targetingKey = lastKey? ps := by
  rw [ofParts, targetingKey_foldl, targetingKey_empty, Option.or_none]

/-- Every attribute has the value that it was given last. -/
theorem attribute?_ofParts (ps : List Part) (name : String) :
    (ofParts ps).attribute? name = lastValue? name ps := by
  rw [attribute?, ofParts, attributes_foldl]
  exact SortedMap.get?_ofList _ name

/-- Parts give the same context exactly when they say the same last. -/
theorem ofParts_eq_iff {ps qs : List Part} :
    ofParts ps = ofParts qs ↔
      lastKey? ps = lastKey? qs ∧ ∀ name, lastValue? name ps = lastValue? name qs := by
  constructor
  · intro h
    refine ⟨?_, fun name => ?_⟩
    · rw [← targetingKey_ofParts, ← targetingKey_ofParts, h]
    · rw [← attribute?_ofParts, ← attribute?_ofParts, h]
  · rintro ⟨hkey, hvalue⟩
    refine ext_attribute? ?_ fun name => ?_
    · rw [targetingKey_ofParts, targetingKey_ofParts, hkey]
    · rw [attribute?_ofParts, attribute?_ofParts, hvalue name]

/-! ### The order of attributes -/

/-- The names of the attributes increase strictly, also when they are compared by their bytes. -/
theorem pairwise_utf8_keys (c : Context) :
    c.attributes.keys.Pairwise fun a b => Text.utf8 a < Text.utf8 b :=
  List.pairwise_map.mpr (c.attributes.increasing.imp Text.utf8_lt_utf8)

theorem mem_keys_ofParts_iff {ps : List Part} {name : String} :
    name ∈ (ofParts ps).attributes.keys ↔ (lastValue? name ps).isSome = true := by
  rw [← attribute?_ofParts, Option.isSome_iff_ne_none, ← not_iff_not, not_ne_iff]
  exact SortedMap.get?_eq_none_iff.symm

/-- A text is the body of a request: an object with one member, the context, whose members have these
names, in this order. -/
def ListsNames (body : String) (names : List String) : Prop :=
  ∃ ms, Document.ofText body = ⟨.object [(.ok "context", .object ms .closed)] .closed, false⟩ ∧
    ms.map Prod.fst = names.map .ok

theorem map_fst_writtenMembers (ms : List (String × Tree)) :
    (writtenMembers ms).map Prod.fst = (ms.map Prod.fst).map .ok := by
  induction ms with
  | nil => rfl
  | cons m ms ih => exact congrArg (Except.ok m.1 :: ·) ih

/-- The targeting key comes first, and then the attributes by increasing name. -/
theorem listsNames_requestBody (c : Context) :
    ListsNames c.requestBody
      ((c.targetingKey.map fun _ => targetingKeyName).toList ++ c.attributes.keys) := by
  refine ⟨writtenMembers c.members, ?_, ?_⟩
  · rw [requestBody, Document.ofText_text, toTree_eq]
    rfl
  · rw [map_fst_writtenMembers, map_fst_members]

/-! ### Contexts that say the same last -/

/-- **Contexts are canonical.**  If two lists of parts end with the same targeting key and give every
attribute the same last value, in whatever order and whatever they said before, then they give the same
context, which says just that.  It is equal in the sense of the cache, has the same summary, and is sent
as the same text; in that text the attributes that were given a value follow the targeting key by
strictly increasing bytes of their names.  So whenever the cache is fresh for the one, every call whose
context equals the other is served from it. -/
theorem canonical_of_last {ps qs : List Part} (hkey : lastKey? ps = lastKey? qs)
    (hvalue : ∀ name, lastValue? name ps = lastValue? name qs) :
    (ofParts ps = ofParts qs ∧ (ofParts ps).same (ofParts qs) = true) ∧
    ((ofParts ps).targetingKey = lastKey? ps ∧
      ∀ name, (ofParts ps).attribute? name = lastValue? name ps) ∧
    (ofParts ps).summary = (ofParts qs).summary ∧
    (ofParts ps).requestBody = (ofParts qs).requestBody ∧
    (∃ names : List String,
      (names.Pairwise fun a b => Text.utf8 a < Text.utf8 b) ∧
      (∀ name, name ∈ names ↔ (lastValue? name ps).isSome = true) ∧
      ListsNames (ofParts qs).requestBody
        (((lastKey? ps).map fun _ => targetingKeyName).toList ++ names)) ∧
    ∀ (r : Remote) (st : Remote.State) (w : World) (k : Bulk.Call),
      (ofParts qs).same k.context = true →
      st.cache.needsRefresh (ofParts ps) w.now.1 = false → k.Served r st w := by
  have heq : ofParts ps = ofParts qs := ofParts_eq_iff.mpr ⟨hkey, hvalue⟩
  refine ⟨⟨heq, heq ▸ same_refl _⟩, ⟨targetingKey_ofParts ps, attribute?_ofParts ps⟩,
    congrArg summary heq, congrArg requestBody heq, ?_, ?_⟩
  · refine ⟨(ofParts ps).attributes.keys, pairwise_utf8_keys _, fun _ => mem_keys_ofParts_iff, ?_⟩
    rw [← heq, ← targetingKey_ofParts]
    exact listsNames_requestBody _
  · intro r st w k hcontext hfresh
    rw [heq, Cache.needsRefresh_congr hcontext] at hfresh
    exact Bulk.Call.served_of_fresh hfresh

/-- The parts of a context, with two of them said again. -/
def repeatedParts : List Part :=
  [.entry "tier" (.string "free"), .key "x", .entry "beta" (.string "on"),
    .entry "tier" (.string "gold"), .key "user-1"]

/-- The parts that count. -/
def plainParts : List Part :=
  [.key "user-1", .entry "tier" (.string "gold"), .entry "beta" (.string "on")]

/-- Both give the same context, and if all flags were asked for in the one, then a call for a flag in
the other is served. -/
theorem ofParts_repeatedParts :
    lastKey? repeatedParts = lastKey? plainParts ∧
      (∀ name, lastValue? name repeatedParts = lastValue? name plainParts) ∧
      ofParts repeatedParts = ofParts plainParts ∧
      (ofParts repeatedParts).summary = "targetingKey=user-1,beta=on,tier=gold" ∧
      (Bulk.Call.resolve "a" (ofParts plainParts)).Served Bulk.minuteRemote
        (Bulk.Run.after Bulk.minuteRemote Bulk.onceWorld [.list (ofParts repeatedParts)]).state
        (Bulk.Run.after Bulk.minuteRemote Bulk.onceWorld [.list (ofParts repeatedParts)]).world := by
  have hkey : lastKey? repeatedParts = lastKey? plainParts := rfl
  have hvalue : ∀ name, lastValue? name repeatedParts = lastValue? name plainParts := by
    intro name
    change
      lastEntry name
        [("tier", Value.string "free"), ("beta", .string "on"), ("tier", .string "gold")] =
      lastEntry name [("tier", .string "gold"), ("beta", .string "on")]
    by_cases htier : "tier" = name
    · subst htier
      rfl
    · simp [lastEntry, htier]
  obtain ⟨⟨heq, -⟩, -, hsummary, -, -, hserved⟩ := canonical_of_last hkey hvalue
  refine ⟨hkey, hvalue, heq, hsummary.trans (by decide +kernel), ?_⟩
  exact hserved _ _ _ _ (same_refl _) (by decide +kernel)

end Context

end RemoteFlags
