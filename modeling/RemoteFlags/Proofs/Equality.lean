import RemoteFlags.Context

/-!
# Equality of contexts

Numbers are compared as numbers, so the two zeros of double precision are equal although they are
written differently.  Equality of contexts is therefore coarser than being the same context, and the
cache relies on its being an equivalence: the entries of one context are handed out for every equal
one.

All equalities are reduced to one *plain form*, in which no zero has a minus sign.

## Main definitions

* `Tree.plain`, `Context.plain` — the plain forms.

## Main results

* `Tree.same_iff`, `Context.same_iff` — equality is having one plain form.
* `Context.same_refl`, `Context.same_symm`, `Context.same_trans` — it is an equivalence.
-/

namespace RemoteFlags

/-! ### Numbers -/

/-- The number without a minus sign if it is zero. -/
def FiniteDouble.plain (x : FiniteDouble) : FiniteDouble := if x.isZero then .zero false else x

theorem FiniteDouble.isZero_plain (x : FiniteDouble) : x.plain.isZero = x.isZero := by
  unfold plain
  split
  · next h => rw [h]; rfl
  · rfl

theorem FiniteDouble.same_iff (x y : FiniteDouble) : x.same y = true ↔ x.plain = y.plain := by
  constructor
  · intro h
    simp only [same, Bool.or_eq_true, Bool.and_eq_true, beq_iff_eq] at h
    rcases h with ⟨hx, hy⟩ | h
    · simp [plain, hx, hy]
    · rw [h]
  · intro h
    have hzero : x.isZero = y.isZero := by rw [← x.isZero_plain, h, y.isZero_plain]
    unfold same
    cases hy : y.isZero with
    | true => simp [hzero, hy]
    | false =>
      rw [plain, plain, hzero, hy] at h
      simpa using h

namespace Json

/-- The number without a minus sign if it is a zero of double precision. -/
def Number.plain : Number → Number
  | .int n h => .int n h
  | .float x => .float x.plain

theorem Number.same_iff (m n : Number) : m.same n = true ↔ m.plain = n.plain := by
  cases m <;> cases n <;> simp [same, plain, FiniteDouble.same_iff]

/-! ### Trees -/

namespace Tree

mutual

/-- The tree with all its numbers in plain form. -/
def plain : Tree → Tree
  | .number n => .number n.plain
  | .array items => .array (plainItems items)
  | .object members => .object (plainMembers members)
  | t => t

/-- The items of an array in plain form. -/
def plainItems : List Tree → List Tree
  | [] => []
  | t :: ts => t.plain :: plainItems ts

/-- The members of an object in plain form. -/
def plainMembers : List (String × Tree) → List (String × Tree)
  | [] => []
  | (k, t) :: ms => (k, t.plain) :: plainMembers ms

end

mutual

theorem same_iff : ∀ s t : Tree, s.same t = true ↔ s.plain = t.plain
  | .null, t => by cases t <;> simp [same, plain]
  | .bool _, t => by cases t <;> simp [same, plain]
  | .number _, t => by cases t <;> simp [same, plain, Number.same_iff]
  | .string _, t => by cases t <;> simp [same, plain]
  | .array items, t => by cases t <;> simp [same, plain, sameItems_iff items]
  | .object members, t => by cases t <;> simp [same, plain, sameMembers_iff members]

theorem sameItems_iff : ∀ l l' : List Tree, sameItems l l' = true ↔ plainItems l = plainItems l'
  | [], l' => by cases l' <;> simp [sameItems, plainItems]
  | t :: ts, l' => by
    cases l' with
    | nil => simp [sameItems, plainItems]
    | cons t' ts' => simp [sameItems, plainItems, same_iff t t', sameItems_iff ts ts']

theorem sameMembers_iff : ∀ l l' : List (String × Tree),
    sameMembers l l' = true ↔ plainMembers l = plainMembers l'
  | [], l' => by cases l' <;> simp [sameMembers, plainMembers]
  | (k, t) :: ms, l' => by
    cases l' with
    | nil => simp [sameMembers, plainMembers]
    | cons m' ms' =>
      simp [sameMembers, plainMembers, same_iff t m'.2, sameMembers_iff ms ms', and_assoc]

end

end Tree

end Json

/-! ### Contexts -/

/-- Comparing maps value by value is comparing what `f` makes of their entries, when `same` compares
what `f` makes of values. -/
theorem SortedMap.sameBy_iff {α β γ : Type} {same : α → β → Bool} {f : α → γ} {g : β → γ}
    (h : ∀ a b, same a b = true ↔ f a = g b) (m : SortedMap α) (n : SortedMap β) :
    m.sameBy same n = true ↔
      m.entries.map (fun e => (e.1, f e.2)) = n.entries.map (fun e => (e.1, g e.2)) := by
  unfold sameBy
  generalize m.entries = l, n.entries = l'
  induction l generalizing l' with
  | nil => cases l' <;> simp [sameBy.go]
  | cons a l ih =>
    cases l' with
    | nil => simp [sameBy.go]
    | cons b l' => simp [sameBy.go, ih, h]

namespace Context

/-- What a context says, with numbers in plain form. -/
def plain (c : Context) : Option String × List (String × Json.Tree) :=
  (c.targetingKey, c.attributes.entries.map fun e => (e.1, e.2.tree.plain))

/-- Two contexts are equal when they have one plain form. -/
theorem same_iff (c d : Context) : c.same d = true ↔ c.plain = d.plain := by
  have hvalues : ∀ v w : Json.Value, v.same w = true ↔ v.tree.plain = w.tree.plain :=
    fun v w => Json.Tree.same_iff v.tree w.tree
  simp only [same, plain, Bool.and_eq_true, beq_iff_eq, Prod.mk.injEq,
    SortedMap.sameBy_iff hvalues]

@[simp] theorem same_refl (c : Context) : c.same c = true := (same_iff c c).mpr rfl

theorem same_symm {c d : Context} (h : c.same d = true) : d.same c = true :=
  (same_iff d c).mpr ((same_iff c d).mp h).symm

theorem same_trans {c d e : Context} (h : c.same d = true) (h' : d.same e = true) :
    c.same e = true :=
  (same_iff c e).mpr (((same_iff c d).mp h).trans ((same_iff d e).mp h'))

end Context

end RemoteFlags
