import RemoteFlags.Proofs.Registration

/-!
# Layers of contexts

A context is determined by its targeting key and by what it says about each attribute.  Laying one
over another picks, for the key and for each attribute, what the upper one says, and what the lower
one says where the upper one is silent.  Seen in this way the laws of layers are those of `<|>`.

## Main results

* `Context.ext_attribute?` — a context is determined by its targeting key and its attributes.
* `Context.merge_assoc`, `Context.merge_self`, `Context.empty_merge`, `Context.merge_empty` — layers
  form an idempotent monoid.
* `Context.layers_of_evaluation` — **what a client passes on.**
-/

namespace RemoteFlags

namespace Context

/-! ### What a context says -/

/-- A context is determined by its targeting key and by what it says about each attribute. -/
theorem ext_attribute? {c d : Context} (hkey : c.targetingKey = d.targetingKey)
    (h : ∀ name, c.attribute? name = d.attribute? name) : c = d := by
  obtain ⟨key, attributes⟩ := c
  obtain ⟨key', attributes'⟩ := d
  obtain rfl : key = key' := hkey
  obtain rfl : attributes = attributes' := SortedMap.ext_get? h
  rfl

@[simp] theorem attribute?_empty (name : String) : (∅ : Context).attribute? name = none := rfl

@[simp] theorem targetingKey_empty : (∅ : Context).targetingKey = none := rfl

@[simp] theorem attribute?_merge (c d : Context) (name : String) :
    (c.merge d).attribute? name = (d.attribute? name <|> c.attribute? name) :=
  SortedMap.get?_override _ _ name

@[simp] theorem targetingKey_merge (c d : Context) :
    (c.merge d).targetingKey = (d.targetingKey <|> c.targetingKey) := rfl

/-- A context is empty when it says nothing. -/
theorem isEmpty_iff {c : Context} :
    c.isEmpty = true ↔ c.targetingKey = none ∧ ∀ name, c.attribute? name = none := by
  rw [isEmpty, Bool.and_eq_true, Option.isNone_iff_eq_none, SortedMap.isEmpty_iff]
  rfl

/-! ### The laws of layers -/

theorem empty_merge (c : Context) : (∅ : Context).merge c = c := by
  refine ext_attribute? ?_ fun name => ?_
  · rw [targetingKey_merge]
    cases c.targetingKey <;> rfl
  · rw [attribute?_merge]
    cases c.attribute? name <;> rfl

theorem merge_empty (c : Context) : c.merge ∅ = c :=
  ext_attribute? rfl fun name => attribute?_merge c ∅ name

theorem merge_self (c : Context) : c.merge c = c := by
  refine ext_attribute? ?_ fun name => ?_
  · rw [targetingKey_merge]
    cases c.targetingKey <;> rfl
  · rw [attribute?_merge]
    cases c.attribute? name <;> rfl

theorem merge_assoc (c d e : Context) : (c.merge d).merge e = c.merge (d.merge e) := by
  refine ext_attribute? ?_ fun name => ?_
  · simp only [targetingKey_merge]
    cases e.targetingKey <;> rfl
  · simp only [attribute?_merge]
    cases e.attribute? name <;> rfl

/-- A layered context says something as soon as one of the layers does. -/
theorem isEmpty_merge (c d : Context) : (c.merge d).isEmpty = (c.isEmpty && d.isEmpty) := by
  have hnone : ∀ {α : Type} (a b : Option α), (a <|> b) = none ↔ b = none ∧ a = none := by
    intro α a b
    cases a <;> simp
  rw [Bool.eq_iff_iff, Bool.and_eq_true, isEmpty_iff, isEmpty_iff, isEmpty_iff]
  simp only [targetingKey_merge, attribute?_merge, hnone, forall_and]
  tauto

/-! ### Three layers -/

/-- A context takes everything from the uppermost one of three layers that says anything about it. -/
structure Layered (low middle high c : Context) : Prop where
  /-- Each attribute is taken from the uppermost layer that has it, and there are no others. -/
  attributes : ∀ name, c.attribute? name =
    (high.attribute? name <|> middle.attribute? name <|> low.attribute? name)
  /-- So is the targeting key. -/
  targetingKey : c.targetingKey = (high.targetingKey <|> middle.targetingKey <|> low.targetingKey)
  /-- The context is empty where no layer says anything, and only there. -/
  isEmpty : c.isEmpty = true ↔ low.isEmpty = true ∧ middle.isEmpty = true ∧ high.isEmpty = true

theorem layered_merge (a b c : Context) : Layered a b c ((a.merge b).merge c) where
  attributes name := by simp only [attribute?_merge]
  targetingKey := by simp only [targetingKey_merge]
  isEmpty := by simp only [isEmpty_merge, Bool.and_eq_true, and_assoc]

/-- **What a client passes on.**  Whatever context `a` is registered, `b` set on the client and `c`
given with the evaluation, the provider is asked in a context that takes the targeting key and each
attribute from the uppermost layer that has it.  A client with a provider of its own passes on the
same as if an empty context were registered.  It makes no difference how the layers are grouped,
whether there are empty ones among them, or whether one is laid over itself. -/
theorem layers_of_evaluation (g : Registry) (a b c : Context) (ps : Providers) (key : String)
    (default : FlagValue) :
    (∀ domain,
      let k := (Client.registered domain).withContext b
      let passed := k.effectiveContext (g.setContext a) c
      Layered a b c passed ∧ k.evaluate (g.setContext a) ps key default c =
        Registration.asked (g.providerFor domain) ps key default passed) ∧
    (∀ p,
      let k := (Client.pinned p).withContext b
      let passed := k.effectiveContext (g.setContext a) c
      Layered ∅ b c passed ∧ k.evaluate (g.setContext a) ps key default c =
        Registration.asked p ps key default passed) ∧
    (a.merge b).merge c = a.merge (b.merge c) ∧ (∅ : Context).merge a = a ∧ a.merge ∅ = a ∧
      a.merge a = a :=
  ⟨fun _ => ⟨layered_merge a b c, rfl⟩, fun _ => ⟨layered_merge ∅ b c, rfl⟩,
    merge_assoc a b c, empty_merge a, merge_empty a, merge_self a⟩

end Context

end RemoteFlags
